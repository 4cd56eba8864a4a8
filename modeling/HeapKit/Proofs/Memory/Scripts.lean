import HeapKit.Proofs.Memory.LeakCheck
import HeapKit.Proofs.Memory.Twins

/-!
# Scripts and what they show

A script is a list of steps: calls of the allocator's byte and typed interface, and writes of
bytes into memory. Run on an allocator, each step shows how it ended (`Shown`): it stopped at a
report under the abort policy, handed out a block, returned an error of some kind, or ended
without error. A script sees of each step what it showed, how many reports it made, the three
counters of the usage afterwards as the 64-bit words they are read as, and the header of a
block it handed out, without the slot (`Observation`).

A script keeps its own account of the blocks it was handed (`Issued`), and keeps to it when
it writes only inside them, releases only nil, misaligned or handed-out addresses, constructs
values that fit their type, and clears no more of a typed block than it holds
(`keepsAlong`). A release frees its block when it returns no error or only the kind mismatch,
which frees as well (`freeingAlong` counts those).
-/

namespace HeapKit.Memory

open Allocator

/-- A step of a script: a call of the allocator's interface, or a write of bytes into memory. -/
inductive Step where
  | call (call : Call)
  | write (address : Nat) (bytes : List UInt8)

/-- How a step ended, as a script sees it. -/
inductive Shown where
  | stopped
  | handed (block : Block)
  | failed (kind : String)
  | done

namespace Shown

/-- What a reply shows: the block handed out, the kind of the error returned, or nothing. -/
def ofReply : Reply → Shown
  | .block (.ok block) => handed block
  | .block (.error error) => failed error.kindName
  | .released (some error) => failed error.kindName
  | .checked (some error) => failed error.kindName
  | .released none => done
  | .checked none => done
  | .kept => done

/-- What the outcome of a step shows: a fault stops the step. -/
def of : Except Fault (Option Reply) → Shown
  | .error _ => stopped
  | .ok (some reply) => ofReply reply
  | .ok none => done

/-- The payload address of a block the step handed out. -/
def payload? : Shown → Option Nat
  | handed block => block.address
  | _ => none

/-- Whether a release that shows this freed what it named: no error, or only the kind mismatch,
which is returned after the block is freed. -/
def frees : Shown → Bool
  | done => true
  | failed kind => kind == Condition.kindMismatch.name
  | _ => false

end Shown

namespace Allocator.Call

/-- The kind of block an allocation call makes. -/
def made : Call → BlockKind
  | construct .. | newArray .. => .typed
  | _ => .raw

end Allocator.Call

namespace Step

/-- The operation a step makes: a call answers its reply, a write answers nothing. -/
def run : Step → AllocM (Option Reply)
  | call operation => do return some (← operation.run)
  | write address bytes => do
    writeBytes address bytes
    return none

end Step

/-! ### Observations -/

/-- What a script sees of one step: what it showed, the reports it made, the usage counters
afterwards as 64-bit words, and the header in front of a block it handed out, slot left out. -/
structure Observation where
  shown : Shown
  reports : Nat
  inUse : Nat
  blocks : Nat
  peak : Nat
  header : Option Header

/-- The header in front of a payload, with the slot left out. -/
def untrackedHeader (space : Space) (payload : Nat) : Header :=
  { Header.decode (space.readOrZero (payload - headerSize) headerSize) with slot := 0 }

/-- The observation of a step that ran from `before`. -/
def observe (before : Allocator) (ran : Except Fault (Option Reply) × Allocator) : Observation where
  shown := Shown.of ran.1
  reports := ran.2.reportCount - before.reportCount
  inUse := ran.2.usage.inUse % Nat.pow 2 64
  blocks := ran.2.usage.blocks % Nat.pow 2 64
  peak := ran.2.usage.peak % Nat.pow 2 64
  header := (Shown.of ran.1).payload?.map (untrackedHeader ran.2.space)

/-- A block a script was handed: its payload address, its length, and whether a typed call
made it. -/
structure Issued where
  payload : Nat
  length : Nat
  kind : BlockKind

/-- Whether a release may name an address: nil, not word-aligned, or the payload of a block the
script was handed. -/
def names (issued : List Issued) : Option Nat → Bool
  | none => true
  | some address => address % minimumAlignment != 0 || issued.any fun block => block.payload == address

/-- Whether clearing `length` bytes at an address stays inside the typed block there, when the
script was handed one. -/
def clearsWithin (issued : List Issued) (address : Option Nat) (length : Nat) : Bool :=
  issued.all fun block => address != some block.payload || block.kind != .typed || decide (length ≤ block.length)

namespace Allocator.Call

/-- Whether a call keeps to the blocks a script was handed. An allocation always does, once its
element type has a valid alignment and a constructed value fits the type; a release names an
address it may name, and a typed release clears no more than the typed block it names holds. An
array release of no capacity names nothing. The leak detector's calls are not part of scripts. -/
def keeps (issued : List Issued) : Call → Bool
  | malloc .. | mallocAligned .. | calloc .. | mallocArray .. | callocArray .. => true
  | construct element value _ => validAlignment element.alignment && decide (value.length ≤ element.size)
  | newArray element _ _ => validAlignment element.alignment
  | free block => names issued block.address
  | destroy element address => names issued address && clearsWithin issued address element.size
  | freeArray element address capacity =>
    capacity == 0 || (names issued address && clearsWithin issued address (capacity * element.size))
  | destroyArray element address capacity =>
    capacity == 0 || (names issued address && clearsWithin issued address (capacity * element.size))
  | keepAlive _ | runCheck | close => false

end Allocator.Call

namespace Step

/-- Whether a step keeps to the blocks a script was handed: a call as `Call.keeps` says, a write
inside one of the blocks. -/
def keeps (issued : List Issued) : Step → Bool
  | call operation => operation.keeps issued
  | write address bytes => issued.any fun block =>
    decide (block.payload ≤ address) && decide (address + bytes.length ≤ block.payload + block.length)

/-- The block a step that showed this handed out, if it handed out one with an address. -/
def issues (step : Step) (shown : Shown) : List Issued :=
  match step, shown with
  | call operation, .handed ⟨some payload, length⟩ => [⟨payload, length.toNat, operation.made⟩]
  | _, _ => []

/-- Whether a step that showed this freed a block: a release of a block that returned no error
or only the kind mismatch. -/
def freeing (step : Step) (shown : Shown) : Bool :=
  match step with
  | call operation => operation.releasesBlock && shown.frees
  | write .. => false

@[simp] theorem freeing_call (operation : Call) (shown : Shown) :
    (call operation).freeing shown = (operation.releasesBlock && shown.frees) := rfl

end Step

end HeapKit.Memory
