import HeapKit.Request.MemoryConfig
import HeapKit.Request.Script
import HeapKit.Container.Storage

/-!
# Accounted container storage

A container in a request may take its storage from an allocator of its own:
each request for storage becomes a typed array of the container's element type,
and storage given back is freed through the typed API. An allocation the
allocator refuses aborts the container operation with the allocator's error.

Container scripts run with such an allocator, or with none, and answer with the
allocator's counters and the reports made during each step.
-/

namespace HeapKit.Request

open HeapKit.Memory

/-- Storage for elements of a type, from an allocator. -/
def allocatorProvider (element : ElementType) (tag : String) : Provider Allocator where
  obtain count _ allocator :=
    let (outcome, allocator) := ((Allocator.newArray element count tag).run).run allocator
    match outcome with
    | .ok (.ok block) => (.ok (block.address.getD 0), allocator)
    | .ok (.error error) =>
      (.error (.abort ("container: allocate " ++ toString count ++ " elements for " ++ tag ++ ": " ++
        error.message)), allocator)
    | .error fault => (.error fault, allocator)
  giveBack address allocator :=
    ((Allocator.free { address := some address, length := 0 } .typed).run.run allocator).2

/-- Reads part of a step while a container operation runs; a refusal stops the
operation. -/
def readDuring {σ γ α : Type} : Outcome α → Mutation σ γ α
  | .ok value => pure value
  | .error failure => throw (.refused failure.message)

/-- The allocator of a container request: present when the request's `alloc`
is an object, which may choose the backend; leak detection is off. An `alloc`
that is neither an object nor null, or an allocator that cannot be made,
refuses the request. -/
def readAccounting (request : Json) : Outcome (Option Allocator) := do
  match fieldOf request "alloc" with
  | some (.object fields) =>
    let backend ← configTextField (.object fields) "backend" (Utf8.encode "lockfree")
    let config : Config := { backend, leakDetection := false }
    match Allocator.create config .callback none Space.empty .off with
    | .ok allocator => pure (some allocator)
    | .error error => refuse ("allocator: " ++ error.message)
  | none | some .null => pure none
  | some _ => refuse "alloc is not an object"

/-- A container script's state: the container, the allocator (a placeholder when
there is none), and whether there is one. -/
structure Accounted (γ : Type) where
  container : γ
  allocator : Allocator
  present : Bool

namespace Accounted

/-- Runs a container operation, keeping what it changed also when it aborts. -/
def run {γ α : Type} (state : Accounted γ) (operation : Mutation Allocator γ α) :
    Outcome α × Accounted γ :=
  let (outcome, (container, allocator)) := operation.run (state.container, state.allocator)
  let outcome := outcome.mapError ofFault
  (outcome, { state with container, allocator })

/-- The allocator's counters, when there is an allocator. -/
def memFields {γ : Type} (state : Accounted γ) (reportsBefore : Nat) : List (String × Json) :=
  if !state.present then []
  else
    let usage := state.allocator.usage
    let reports := state.allocator.journal.reports.toList.drop reportsBefore
    [("mem", .object [("in_use", .nat usage.inUse), ("blocks", .nat usage.blocks)])] ++
      (if reports.isEmpty then [] else [("reports", .array (reports.map Json.string))])

end Accounted

end HeapKit.Request
