import HeapKit.Proofs.Memory.Releases
import HeapKit.Proofs.Memory.DetectorFrame

/-!
# Runs of typed calls

A run of typed calls constructs values and arrays, releases them in any of four ways (a destroy,
an array free, an array destroy, a free through the byte API) any number of times and in any
order, and writes into what it holds. The run keeps its own account of what it holds: a handle
per value or array, with the element type and the capacity it was made with and whether it is
still live. A re-slice `s[:k]` of an array has the address and the capacity of the array, so a
release of a re-slice is a release of the array's handle.

On an allocator whose books hold, on either backend:
* the allocator answers liveness as the run's account says, for every handle (`Faithful.live`);
* a call records exactly the identifiers of the elements it finalizes, and it finalizes only
  elements of a handle live at the call: the pointed-to element for a destroy, every element
  for an array destroy (`Faithful.journal`);
* a typed release of a live handle succeeds, takes the frame's whole rounded length and one
  block out of the usage, whatever its capacity says, clears the elements and leaves the handle
  dead (`Released`), and a release of a dead handle leaves the usage alone (`Faithful.kept`);
* over the whole run, no element of any handle is finalized twice.
-/

namespace HeapKit.Memory

open HeapKit.Endian Allocator

/-- A value or an array a run holds: its element type, its address (none for an array of no
elements), its capacity and whether it is still live, by the run's own account. -/
structure TypedHandle where
  element : ElementType
  address : Option Nat
  count : Nat
  live : Bool

namespace TypedHandle

/-- The address of an element. -/
def elementAt (handle : TypedHandle) (index : Nat) : Nat :=
  handle.address.getD 0 + index * handle.element.size

/-- The handle a construction or an array allocation makes from the block it hands out. -/
def ofBlock (element : ElementType) (count : Nat) (block : Block) : TypedHandle :=
  ⟨element, block.address, count, block.address.isSome⟩

/-- A handle after the block at an address was released: dead if it is at that address. -/
def releasedAt (address : Option Nat) (handle : TypedHandle) : TypedHandle :=
  if handle.address = address then { handle with live := false } else handle

end TypedHandle

/-- The four ways a run releases what it holds. -/
inductive Release where
  | destroy
  | freeArray
  | destroyArray
  | free
  deriving DecidableEq

namespace Release

/-- The operation a release runs on a handle; a free through the byte API asks for the bytes of
the whole capacity. -/
def operation (handle : TypedHandle) : Release → AllocM (Option MemError)
  | destroy => Allocator.destroy handle.element handle.address
  | freeArray => Allocator.freeArray handle.element handle.address handle.count
  | destroyArray => Allocator.destroyArray handle.element handle.address handle.count
  | free => Allocator.free ⟨handle.address, handle.count * handle.element.size⟩ .raw

/-- The elements a release finalizes, by index: the pointed-to element for a destroy and every
element for an array destroy, when the handle is live and its type has a finalizer. -/
def finalizes (handle : TypedHandle) : Release → List Nat
  | destroy => if handle.live && handle.element.finalized then [0] else []
  | destroyArray => if handle.live && handle.element.finalized then List.range handle.count else []
  | freeArray | free => []

/-- The bytes a release clears when it succeeds: the value for a destroy, every element for the
array releases, nothing for a free through the byte API. -/
def clears (handle : TypedHandle) : Release → Nat
  | destroy => handle.element.size
  | freeArray | destroyArray => handle.count * handle.element.size
  | free => 0

end Release

/-- A call of a typed run. Releases and writes name a handle by its position among the handles
the run made, oldest first. -/
inductive TypedCall where
  | construct (element : ElementType) (value : List UInt8) (tag : String)
  | newArray (element : ElementType) (count : Int) (tag : String)
  | release (kind : Release) (handle : Nat)
  | write (handle offset : Nat) (bytes : List UInt8)

/-- The handles after a construction or an array allocation with this result. -/
def madeFrom (held : List TypedHandle) (element : ElementType) (count : Nat) :
    Except Fault (Except MemError Block) → List TypedHandle
  | .ok (.ok block) => held ++ [TypedHandle.ofBlock element count block]
  | _ => held

/-- The handles after a release at an address with this result: one that stopped on a fault
released nothing. -/
def releasedFrom (held : List TypedHandle) (address : Option Nat) :
    Except Fault (Option MemError) → List TypedHandle
  | .ok _ => held.map (TypedHandle.releasedAt address)
  | .error _ => held

namespace TypedCall

/-- One call: its operation runs on the allocator and the handles follow the result. A release
or a write of a position the run does not hold does nothing, and a write lands only inside the
capacity of a live handle. -/
def apply (held : List TypedHandle) (allocator : Allocator) : TypedCall → List TypedHandle × Allocator
  | construct element value tag =>
    let outcome := (Allocator.construct element value tag).run.run allocator
    (madeFrom held element 1 outcome.1, outcome.2)
  | newArray element count tag =>
    let outcome := (Allocator.newArray element count tag).run.run allocator
    (madeFrom held element count.toNat outcome.1, outcome.2)
  | release kind index =>
    match held[index]? with
    | none => (held, allocator)
    | some handle =>
      let outcome := (kind.operation handle).run.run allocator
      (releasedFrom held handle.address outcome.1, outcome.2)
  | write index offset bytes =>
    match held[index]? with
    | none => (held, allocator)
    | some handle =>
      if handle.live = true ∧ offset + bytes.length ≤ handle.count * handle.element.size then
        (held, ((writeBytes (handle.elementAt 0 + offset) bytes).run.run allocator).2)
      else (held, allocator)

/-- The elements a call finalizes, as positions: the handle, then the element. -/
def finalizes (held : List TypedHandle) : TypedCall → List (Nat × Nat)
  | release kind index =>
    match held[index]? with
    | some handle => (kind.finalizes handle).map fun element => (index, element)
    | none => []
  | _ => []

/-- A call the language's types allow: element types have a valid alignment, and a value has at
most the bytes of its type. -/
def Sound : TypedCall → Prop
  | construct element value _ => validAlignment element.alignment = true ∧ value.length ≤ element.size
  | newArray element _ _ => validAlignment element.alignment = true
  | release .. | write .. => True

instance : DecidablePred Sound
  | construct element value _ =>
    inferInstanceAs (Decidable (validAlignment element.alignment = true ∧ value.length ≤ element.size))
  | newArray element _ _ => inferInstanceAs (Decidable (validAlignment element.alignment = true))
  | release .. | write .. => isTrue trivial

end TypedCall

/-- The handles and the allocator a run of calls reaches. -/
def runTyped (script : List TypedCall) (state : List TypedHandle × Allocator) : List TypedHandle × Allocator :=
  script.foldl (fun state call => call.apply state.1 state.2) state

/-- The elements a run of calls finalizes, in order. -/
def finalizedBy : List TypedCall → List TypedHandle × Allocator → List (Nat × Nat)
  | [], _ => []
  | call :: rest, state => call.finalizes state.1 ++ finalizedBy rest (call.apply state.1 state.2)

/-- The address of the element at a position. -/
def elementAddress (held : List TypedHandle) (position : Nat × Nat) : Nat :=
  match held[position.1]? with
  | some handle => handle.elementAt position.2
  | none => 0

/-- What a typed release of a live handle leaves: it succeeds, the frame's whole rounded length
and one block leave the usage, the cleared bytes read as zeros and the handle is no longer live. -/
structure Released (allocator : Allocator) (handle : TypedHandle) (clear : Nat)
    (outcome : Except Fault (Option MemError) × Allocator) : Prop where
  succeeds : outcome.1 = .ok none
  inUse : (outcome.2.usage.inUse + roundLength (handle.element.size * handle.count)) % 2 ^ 64 =
    allocator.usage.inUse % 2 ^ 64
  blocks : (outcome.2.usage.blocks + 1) % 2 ^ 64 = allocator.usage.blocks % 2 ^ 64
  cleared : outcome.2.space.readOrZero (handle.address.getD 0) clear = List.replicate clear 0
  dead : (isLive handle.address).run.run outcome.2 = (.ok false, outcome.2)

/-- A call behaves as the run's account says: the allocator answers liveness as the handles
say, the call records the identifiers of exactly the elements it finalizes, a typed release of a
live handle releases its frame, and a release of a dead handle leaves the usage alone. -/
structure Faithful (held : List TypedHandle) (allocator : Allocator) (call : TypedCall) : Prop where
  live : ∀ handle ∈ held, (isLive handle.address).run.run allocator = (.ok handle.live, allocator)
  journal : (call.apply held allocator).2.journal.finalized.toList =
    allocator.journal.finalized.toList ++
      (call.finalizes held).map fun position => identifierAt allocator.space (elementAddress held position)
  released : ∀ kind index handle, call = .release kind index → held[index]? = some handle →
    handle.live = true → kind ≠ .free →
      Released allocator handle (kind.clears handle) ((kind.operation handle).run.run allocator)
  kept : ∀ kind index handle, call = .release kind index → held[index]? = some handle →
    handle.live = false → ((kind.operation handle).run.run allocator).2.usage = allocator.usage

/-! ### The handles the placed blocks back -/

/-- A handle the placed blocks back: with no address it is dead; at an address it has elements,
and a placed frame for them has its payload there and the handle's liveness. -/
structure Backs (placed : List Placed) (handle : TypedHandle) : Prop where
  nil : handle.address = none → handle.live = false
  framed : ∀ payload, handle.address = some payload → 0 < handle.count ∧
    ∃ block ∈ placed, block.payload = payload ∧ block.live = handle.live ∧ Frames block handle.element handle.count

/-- The invariant of a typed run: the books hold over the placed blocks, the leak check has not
run, and the placed blocks back every handle. -/
structure Holding (held : List TypedHandle) (allocator : Allocator) (placed : List Placed) : Prop where
  books : Books allocator placed
  unchecked : allocator.leakRan = false
  backed : ∀ handle ∈ held, Backs placed handle

namespace Backs

variable {allocator : Allocator} {placed : List Placed} {handle : TypedHandle}

theorem append (backs : Backs placed handle) (extra : List Placed) : Backs (placed ++ extra) handle where
  nil := backs.nil
  framed payload address := by
    obtain ⟨positive, block, member, rest⟩ := backs.framed payload address
    exact ⟨positive, block, List.mem_append_left extra member, rest⟩

/-- Freeing a frame where it lies keeps its handles backed once they are released; the other
handles keep their frames, which the free did not touch. -/
theorem freed {before after : List Placed} {block : Placed} (books : Books allocator (before ++ block :: after))
    (backs : Backs (before ++ block :: after) handle) :
    Backs (before ++ block.freed :: after) (handle.releasedAt (some block.payload)) := by
  unfold TypedHandle.releasedAt
  split
  case isTrue same =>
    refine ⟨fun _ => rfl, fun payload address => ?_⟩
    obtain ⟨positive, owner, member, rfl, -, frames⟩ := backs.framed _ address
    have owned : owner = block := books.eq_of_payload member (by simp) (Option.some.inj (address.symm.trans same))
    subst owned
    exact ⟨positive, owner.freed, by simp, rfl, rfl, frames.freed⟩
  case isFalse differs =>
    refine ⟨backs.nil, fun payload address => ?_⟩
    obtain ⟨positive, owner, member, rfl, live, frames⟩ := backs.framed _ address
    refine ⟨positive, owner, ?_, rfl, live, frames⟩
    simp only [List.mem_append, List.mem_cons] at member ⊢
    rcases member with inFront | rfl | behind
    · exact .inl inFront
    · exact absurd address differs
    · exact .inr (.inr behind)

/-- Releasing the handles at an address with nothing live keeps them backed. -/
theorem releasedAt_freedAt (books : Books allocator placed) {address : Option Nat}
    (dead : FreedAt placed address) (backs : Backs placed handle) : Backs placed (handle.releasedAt address) := by
  unfold TypedHandle.releasedAt
  split
  case isTrue same =>
    refine ⟨fun _ => rfl, fun payload located => ?_⟩
    obtain ⟨positive, owner, member, rfl, -, frames⟩ := backs.framed _ located
    obtain ⟨freedBlock, freedMember, samePayload, freedDead⟩ := dead owner.payload (same.symm.trans located)
    have owned : freedBlock = owner := books.eq_of_payload freedMember member samePayload
    subst owned
    exact ⟨positive, freedBlock, member, rfl, freedDead, frames⟩
  case isFalse => exact backs

/-- The handle of a live frame a run just made. -/
theorem made {frame : Placed} (member : frame ∈ placed) (live : frame.live = true) {element : ElementType}
    {count : Nat} (frames : Frames frame element count) (positive : 0 < count) :
    Backs placed ⟨element, some frame.payload, count, true⟩ where
  nil absent := by cases absent
  framed _ address := ⟨positive, frame, member, Option.some.inj address, live, frames⟩

end Backs

/-! ### Releases of live frames -/

theorem recordFinalized_nil (allocator : Allocator) : recordFinalized [] allocator = allocator := by
  simp [recordFinalized]

namespace Release

/-- The identifiers the finalizers of a release record, read from a space. -/
def identifiers (kind : Release) (handle : TypedHandle) (space : Space) : List Int :=
  (kind.finalizes handle).map fun element => identifierAt space (handle.elementAt element)

variable {handle : TypedHandle}

theorem finalizes_of_dead (dead : handle.live = false) (kind : Release) : kind.finalizes handle = [] := by
  cases kind <;> simp [finalizes, dead]

theorem live_of_mem_finalizes {kind : Release} {element : Nat} (member : element ∈ kind.finalizes handle) :
    handle.live = true := by
  cases live : handle.live
  · rw [finalizes_of_dead live] at member
    cases member
  · rfl

theorem ne_free_of_mem_finalizes {kind : Release} {element : Nat} (member : element ∈ kind.finalizes handle) :
    kind ≠ .free := by
  rintro rfl
  cases member

theorem finalizes_nodup (kind : Release) : (kind.finalizes handle).Nodup := by
  cases kind <;> simp only [finalizes]
  · split <;> simp
  · exact List.nodup_nil
  · split <;> simp [List.nodup_range]
  · exact List.nodup_nil

/-- A release clears at most the frame of a handle with elements. -/
theorem clears_le (kind : Release) (positive : 0 < handle.count) :
    kind.clears handle ≤ roundLength (handle.element.size * handle.count) := by
  have rounded := (roundLength_bounds (handle.element.size * handle.count)).1
  have atLeastOne : handle.element.size ≤ handle.element.size * handle.count := Nat.le_mul_of_pos_right _ positive
  cases kind <;> simp only [clears, Nat.mul_comm handle.count] <;> omega

section Live

variable {allocator : Allocator} {before after : List Placed} {block : Placed}
  (books : Books allocator (before ++ block :: after)) (unchecked : allocator.leakRan = false)
  (address : handle.address = some block.payload) (blockLive : block.live = true) (live : handle.live = true)
  (frames : Frames block handle.element handle.count) (positive : 0 < handle.count)
include books unchecked address blockLive live frames positive

/-- A typed release of a live frame records the identifiers of the elements it finalizes, frees
the frame and clears what it clears. -/
theorem operation_live {kind : Release} (typed : kind ≠ .free) :
    (kind.operation handle).run.run allocator =
      (.ok none, (recordFinalized (kind.identifiers handle allocator.space) allocator).clearedFree block
        (kind.clears handle)) := by
  have nonempty : handle.count ≠ 0 := Nat.pos_iff_ne_zero.mp positive
  cases kind
  · simp only [operation, address, identifiers, finalizes, live, Bool.true_and, clears]
    rw [books.destroy_live blockLive unchecked frames.typed]
    cases handle.element.finalized
    · simp [recordFinalized_nil]
    · simp [TypedHandle.elementAt, address]
  · simp only [operation, address, identifiers, finalizes, clears, List.map_nil, recordFinalized_nil]
    exact books.freeArray_live blockLive unchecked frames.typed _ nonempty
  · simp only [operation, address, identifiers, finalizes, live, Bool.true_and, clears]
    rw [books.destroyArray_live blockLive unchecked frames.typed _ nonempty]
    cases handle.element.finalized
    · simp [recordFinalized_nil]
    · simp [TypedHandle.elementAt, address]
  · exact absurd rfl typed

/-- A typed release of a live frame does what `Released` says, keeps the books with the frame
freed and the leak check as it was, and records exactly its finalizers' identifiers. -/
theorem released_live {kind : Release} (typed : kind ≠ .free) :
    Released allocator handle (kind.clears handle) ((kind.operation handle).run.run allocator) ∧
      Books ((kind.operation handle).run.run allocator).2 (before ++ block.freed :: after) ∧
      ((kind.operation handle).run.run allocator).2.leakRan = allocator.leakRan ∧
      ((kind.operation handle).run.run allocator).2.journal.finalized.toList =
        allocator.journal.finalized.toList ++ kind.identifiers handle allocator.space := by
  rw [operation_live books unchecked address blockLive live frames positive typed]
  have recorded := books.of_core (core_recordFinalized (kind.identifiers handle allocator.space) allocator)
  have sameUsage := usage_eq_of_core (core_recordFinalized (kind.identifiers handle allocator.space) allocator)
  have within : kind.clears handle ≤ block.entry.length := by
    rw [frames.length]
    exact clears_le kind positive
  obtain ⟨freedBooks, inUse, blocks, zeros, journal, leakRan⟩ := recorded.clearedFree_facts blockLive frames.framed within
  rw [frames.length, sameUsage] at inUse
  rw [sameUsage] at blocks
  refine ⟨⟨rfl, inUse, blocks, ?_, ?_⟩, freedBooks, leakRan, ?_⟩
  · rw [address]
    exact zeros
  · rw [address]
    exact freedBooks.isLive_run (show block.freed ∈ before ++ block.freed :: after by simp)
  · rw [journal]
    simp [recordFinalized]

end Live

end Release

/-- A release of a handle at an address with nothing live frees nothing. -/
theorem Release.untouched {allocator : Allocator} {placed : List Placed} (books : Books allocator placed)
    (unchecked : allocator.leakRan = false) {handle : TypedHandle} (dead : FreedAt placed handle.address)
    {kind : Release} {result : Except Fault (Option MemError)} {next : Allocator}
    (run : (kind.operation handle).run.run allocator = (result, next)) : Untouched placed allocator next := by
  cases kind
  · exact books.destroy_freedAt dead unchecked _ run
  · exact books.freeArray_freedAt dead unchecked _ _ run
  · exact books.destroyArray_freedAt dead unchecked _ _ run
  · exact (books.free_freedAt dead unchecked run).2

/-- An operation that ignores the detector leaves the leak check as it was. -/
theorem leakRan_of_ignores {α : Type} {operation : AllocM α} (ignores : IgnoresDetector operation)
    {allocator next : Allocator} {result : Except Fault α} (run : operation.run.run allocator = (result, next)) :
    next.leakRan = allocator.leakRan := by
  have shared := detectorState_run ignores allocator
  rw [run] at shared
  exact congrArg DetectorState.leakRan shared

theorem length_liveSlots_le (placed : List Placed) : (liveSlots placed).length ≤ placed.length := by
  simp only [liveSlots, List.length_map]
  exact List.length_filter_le _ _

theorem madeFrom_of_ne {held : List TypedHandle} {element : ElementType} {count : Nat}
    {result : Except Fault (Except MemError Block)} (failed : ∀ block, result ≠ .ok (.ok block)) :
    madeFrom held element count result = held := by
  unfold madeFrom
  split
  · exact absurd rfl (failed _)
  · rfl

namespace Holding

variable {held : List TypedHandle} {allocator : Allocator} {placed : List Placed} {handle : TypedHandle}

/-- The allocator answers liveness as the handles say. -/
theorem isLive_run (holding : Holding held allocator placed) (member : handle ∈ held) :
    (isLive handle.address).run.run allocator = (.ok handle.live, allocator) := by
  have backs := holding.backed handle member
  rcases address : handle.address with _ | payload
  · rw [backs.nil address]
    rfl
  · obtain ⟨-, block, owner, rfl, live, -⟩ := backs.framed _ address
    rw [← live]
    exact holding.books.isLive_run owner

/-- Nothing live is placed at the address of a dead handle. -/
theorem freedAt (holding : Holding held allocator placed) (member : handle ∈ held) (dead : handle.live = false) :
    FreedAt placed handle.address := by
  intro payload address
  obtain ⟨-, block, owner, rfl, live, -⟩ := (holding.backed handle member).framed payload address
  exact ⟨block, owner, rfl, live.trans dead⟩

/-- A release of a dead handle frees nothing. -/
theorem untouched (holding : Holding held allocator placed) (member : handle ∈ held) (dead : handle.live = false)
    {kind : Release} {result : Except Fault (Option MemError)} {next : Allocator}
    (run : (kind.operation handle).run.run allocator = (result, next)) : Untouched placed allocator next :=
  Release.untouched holding.books holding.unchecked (holding.freedAt member dead) run

/-- A live handle has elements and a live frame at its address. -/
theorem framed (holding : Holding held allocator placed) (member : handle ∈ held) (live : handle.live = true) :
    ∃ before block after, placed = before ++ block :: after ∧ handle.address = some block.payload ∧
      block.live = true ∧ Frames block handle.element handle.count ∧ 0 < handle.count := by
  have backs := holding.backed handle member
  rcases address : handle.address with _ | payload
  · rw [backs.nil address] at live
    cases live
  · obtain ⟨positive, block, owner, rfl, blockLive, frames⟩ := backs.framed _ address
    obtain ⟨before, after, split⟩ := List.append_of_mem owner
    exact ⟨before, block, after, split, rfl, blockLive.trans live, frames, positive⟩

theorem of_core (holding : Holding held allocator placed) {next : Allocator} (kept : next.core = allocator.core) :
    Holding held next placed :=
  ⟨holding.books.of_core kept, (leakRan_eq_of_core kept).trans holding.unchecked, holding.backed⟩

/-- A handle made with a new frame placed last. -/
theorem push (holding : Holding held allocator placed) (extra : List Placed) {next : Allocator}
    (books : Books next (placed ++ extra)) (unchecked : next.leakRan = false) (backs : Backs (placed ++ extra) handle) :
    Holding (held ++ [handle]) next (placed ++ extra) where
  books := books
  unchecked := unchecked
  backed other member := by
    rcases List.mem_append.mp member with old | new
    · exact (holding.backed other old).append extra
    · rw [List.mem_singleton.mp new]
      exact backs

/-- A release at an address with nothing live, whatever its result, frees nothing. -/
theorem releasedFrom_freedAt (holding : Holding held allocator placed) {address : Option Nat}
    (dead : FreedAt placed address) {next : Allocator} (untouched : Untouched placed allocator next)
    (result : Except Fault (Option MemError)) : Holding (releasedFrom held address result) next placed := by
  refine ⟨untouched.books, untouched.unchecked, ?_⟩
  cases result
  · exact holding.backed
  · intro released member
    obtain ⟨other, otherMember, rfl⟩ := List.mem_map.mp member
    exact (holding.backed other otherMember).releasedAt_freedAt holding.books dead

/-- A release that freed a live frame where it lies releases its handles. -/
theorem freed {before after : List Placed} {block : Placed} (holding : Holding held allocator (before ++ block :: after))
    {next : Allocator} (books : Books next (before ++ block.freed :: after)) (unchecked : next.leakRan = false) :
    Holding (held.map (TypedHandle.releasedAt (some block.payload))) next (before ++ block.freed :: after) where
  books := books
  unchecked := unchecked
  backed released member := by
    obtain ⟨other, otherMember, rfl⟩ := List.mem_map.mp member
    exact (holding.backed other otherMember).freed holding.books

/-! ### One call keeps the invariant -/

theorem construct (holding : Holding held allocator placed) {element : ElementType} {value : List UInt8}
    {tag : String} (sound : (TypedCall.construct element value tag).Sound) (room : placed.length + 1 < 2 ^ 32) :
    ∃ grown, Holding ((TypedCall.construct element value tag).apply held allocator).1
      ((TypedCall.construct element value tag).apply held allocator).2 grown ∧ grown.length ≤ placed.length + 1 := by
  obtain ⟨valid, fits⟩ := sound
  rcases running : (Allocator.construct element value tag).run.run allocator with ⟨result, next⟩
  have unchecked : next.leakRan = false :=
    (leakRan_of_ignores (ignores_construct element value tag) running).trans holding.unchecked
  simp only [TypedCall.apply, running]
  rcases construct_cases running with ⟨failed, kept⟩ | ⟨framed, framing, rfl, rfl⟩
  · rw [madeFrom_of_ne failed]
    exact ⟨placed, holding.of_core kept, by omega⟩
  · obtain ⟨frame, books, address, live, frames, -, -⟩ :=
      holding.books.allocateFrame_placed valid (by have := length_liveSlots_le placed; omega) framing
    have located : (frameRegionAt element 1 allocator.space.nextBase).payload = frame.payload :=
      Option.some.inj address
    have member : frame ∈ placed ++ [frame] := by simp
    have rounded := (roundLength_bounds element.size).1
    have length : frame.entry.length = roundLength element.size := by simpa using frames.length
    simp only [madeFrom, TypedHandle.ofBlock, Option.isSome_some, located]
    refine ⟨placed ++ [frame], holding.push [frame] ?_ unchecked (Backs.made member live frames (by decide)), by simp⟩
    exact books.write_payload member le_rfl (by omega)

theorem newArray (holding : Holding held allocator placed) {element : ElementType} {count : Int} {tag : String}
    (sound : (TypedCall.newArray element count tag).Sound) (room : placed.length + 1 < 2 ^ 32) :
    ∃ grown, Holding ((TypedCall.newArray element count tag).apply held allocator).1
      ((TypedCall.newArray element count tag).apply held allocator).2 grown ∧ grown.length ≤ placed.length + 1 := by
  rcases running : (Allocator.newArray element count tag).run.run allocator with ⟨result, next⟩
  have unchecked : next.leakRan = false :=
    (leakRan_of_ignores (ignores_newArray element count tag) running).trans holding.unchecked
  simp only [TypedCall.apply, running]
  by_cases empty : count = 0
  · -- no elements: the nil block, and a handle that was never live
    subst empty
    rw [newArray_run_of_zero] at running
    cases running
    simp only [madeFrom, TypedHandle.ofBlock, Option.isSome_none]
    refine ⟨placed ++ [], holding.push [] (by rw [List.append_nil]; exact holding.books) unchecked ?_, by simp⟩
    exact ⟨fun _ => rfl, fun _ absent => by cases absent⟩
  · rw [newArray_run_of_ne_zero tag allocator empty] at running
    rcases allocateFrame_cases running with ⟨failed, kept⟩ | ⟨-, -, rfl, -⟩
    · rw [madeFrom_of_ne failed]
      exact ⟨placed, holding.of_core kept, by omega⟩
    · obtain ⟨frame, books, address, live, frames, -, nonnegative⟩ :=
        holding.books.allocateFrame_placed sound (by have := length_liveSlots_le placed; omega) running
      have located : (frameRegionAt element count.toNat allocator.space.nextBase).payload = frame.payload :=
        Option.some.inj address
      simp only [madeFrom, TypedHandle.ofBlock, Option.isSome_some, located]
      exact ⟨placed ++ [frame], holding.push [frame] books unchecked (Backs.made (by simp) live frames (by omega)),
        by simp⟩

theorem release (holding : Holding held allocator placed) (kind : Release) (index : Nat) :
    ∃ grown, Holding ((TypedCall.release kind index).apply held allocator).1
      ((TypedCall.release kind index).apply held allocator).2 grown ∧ grown.length = placed.length := by
  rcases found : held[index]? with _ | handle
  · simp only [TypedCall.apply, found]
    exact ⟨placed, holding, rfl⟩
  · have member := List.mem_of_getElem? found
    simp only [TypedCall.apply, found]
    rcases running : (kind.operation handle).run.run allocator with ⟨result, next⟩
    cases live : handle.live
    · have dead := holding.freedAt member live
      exact ⟨placed, holding.releasedFrom_freedAt dead (holding.untouched member live running) result, rfl⟩
    · obtain ⟨before, block, after, rfl, address, blockLive, frames, positive⟩ := holding.framed member live
      have grownLength : (before ++ block.freed :: after).length = (before ++ block :: after).length := by simp
      by_cases raw : kind = .free
      · -- through the byte API: a kind mismatch that still frees the frame, unless it stopped
        subst raw
        simp only [Release.operation, address] at running
        have differs : block.header.kind ≠ BlockKind.raw.code := by
          rw [frames.typed]
          decide
        rcases holding.books.free_live_mismatch blockLive holding.unchecked differs running with
          ⟨⟨fault, rfl⟩, kept⟩ | ⟨rfl, middle, kept, rfl⟩
        · exact ⟨_, holding.of_core kept, rfl⟩
        · rw [address]
          exact ⟨_, holding.freed ((holding.books.of_core kept).free blockLive frames.framed)
            ((Books.leakRan_freedPlaced block).trans ((leakRan_eq_of_core kept).trans holding.unchecked)), grownLength⟩
      · obtain ⟨released, books, leakRan, -⟩ :=
          Release.released_live holding.books holding.unchecked address blockLive live frames positive raw
        rw [running] at released books leakRan
        have succeeded : result = .ok none := released.succeeds
        subst succeeded
        rw [address]
        exact ⟨_, holding.freed books (leakRan.trans holding.unchecked), grownLength⟩

theorem write (holding : Holding held allocator placed) (index offset : Nat) (bytes : List UInt8) :
    Holding ((TypedCall.write index offset bytes).apply held allocator).1
      ((TypedCall.write index offset bytes).apply held allocator).2 placed := by
  rcases found : held[index]? with _ | handle
  · simp only [TypedCall.apply, found]
    exact holding
  · simp only [TypedCall.apply, found]
    split
    case isTrue inside =>
      obtain ⟨live, fits⟩ := inside
      obtain ⟨before, block, after, rfl, address, -, frames, -⟩ := holding.framed (List.mem_of_getElem? found) live
      have rounded := (roundLength_bounds (handle.element.size * handle.count)).1
      have length := frames.length
      rw [Nat.mul_comm] at fits
      have member : block ∈ before ++ block :: after := by simp
      refine ⟨holding.books.write_payload member ?_ ?_, holding.unchecked, holding.backed⟩
      · simp only [TypedHandle.elementAt, address, Option.getD_some]
        omega
      · simp only [TypedHandle.elementAt, address, Option.getD_some]
        omega
    case isFalse => exact holding

theorem apply (holding : Holding held allocator placed) {call : TypedCall} (sound : call.Sound)
    (room : placed.length + 1 < 2 ^ 32) :
    ∃ grown, Holding (call.apply held allocator).1 (call.apply held allocator).2 grown ∧
      grown.length ≤ placed.length + 1 := by
  cases call with
  | construct element value tag => exact holding.construct sound room
  | newArray element count tag => exact holding.newArray sound room
  | release kind index =>
    obtain ⟨grown, holds, length⟩ := holding.release kind index
    exact ⟨grown, holds, by omega⟩
  | write index offset bytes => exact ⟨placed, holding.write index offset bytes, by omega⟩

/-! ### One call does what the run's account says -/

/-- A call records the identifiers of exactly the elements it finalizes. -/
theorem journal (holding : Holding held allocator placed) (call : TypedCall) :
    (call.apply held allocator).2.journal.finalized.toList = allocator.journal.finalized.toList ++
      (call.finalizes held).map fun position => identifierAt allocator.space (elementAddress held position) := by
  cases call with
  | construct element value tag =>
    simp only [TypedCall.apply, TypedCall.finalizes, List.map_nil, List.append_nil]
    rw [runsNoFinalizer_construct]
  | newArray element count tag =>
    simp only [TypedCall.apply, TypedCall.finalizes, List.map_nil, List.append_nil]
    rw [runsNoFinalizer_newArray]
  | release kind index =>
    rcases found : held[index]? with _ | handle
    · simp [TypedCall.apply, TypedCall.finalizes, found]
    · have positions : ((fun position => identifierAt allocator.space (elementAddress held position)) ∘
          fun element => (index, element)) = fun element => identifierAt allocator.space (handle.elementAt element) := by
        funext element
        simp [elementAddress, found]
      simp only [TypedCall.apply, TypedCall.finalizes, found, List.map_map, positions]
      have member := List.mem_of_getElem? found
      cases live : handle.live
      · rcases running : (kind.operation handle).run.run allocator with ⟨result, next⟩
        have untouched := holding.untouched member live running
        simp only [Release.finalizes_of_dead live, List.map_nil, List.append_nil, untouched.finalized]
      · obtain ⟨before, block, after, rfl, address, blockLive, frames, positive⟩ := holding.framed member live
        by_cases raw : kind = .free
        · subst raw
          simp only [Release.finalizes, List.map_nil, List.append_nil, Release.operation]
          rw [runsNoFinalizer_free]
        · exact (Release.released_live holding.books holding.unchecked address blockLive live frames positive raw).2.2.2
  | write index offset bytes =>
    rcases found : held[index]? with _ | handle
    · simp [TypedCall.apply, TypedCall.finalizes, found]
    · simp only [TypedCall.apply, TypedCall.finalizes, found, List.map_nil, List.append_nil]
      split
      · rfl
      · rfl

theorem faithful (holding : Holding held allocator placed) (call : TypedCall) : Faithful held allocator call where
  live _ member := holding.isLive_run member
  journal := holding.journal call
  released kind index handle _ found live typed := by
    obtain ⟨before, block, after, rfl, address, blockLive, frames, positive⟩ :=
      holding.framed (List.mem_of_getElem? found) live
    exact (Release.released_live holding.books holding.unchecked address blockLive live frames positive typed).1
  kept kind index handle _ found dead := by
    rcases running : (kind.operation handle).run.run allocator with ⟨result, next⟩
    exact (holding.untouched (List.mem_of_getElem? found) dead running).usage

end Holding

/-! ### No element is finalized twice -/

/-- Every position of a trace is an element of a handle the run holds dead. -/
def Spent (held : List TypedHandle) (trace : List (Nat × Nat)) : Prop :=
  ∀ position ∈ trace, ∃ handle, held[position.1]? = some handle ∧ handle.live = false

theorem TypedHandle.releasedAt_live (address : Option Nat) {handle : TypedHandle} (dead : handle.live = false) :
    (handle.releasedAt address).live = false := by
  unfold TypedHandle.releasedAt
  split
  · rfl
  · exact dead

theorem TypedHandle.releasedAt_self (handle : TypedHandle) : (handle.releasedAt handle.address).live = false := by
  simp [TypedHandle.releasedAt]

namespace TypedCall

theorem mem_finalizes {call : TypedCall} {held : List TypedHandle} {position : Nat × Nat}
    (member : position ∈ call.finalizes held) :
    ∃ kind handle, call = .release kind position.1 ∧ held[position.1]? = some handle ∧
      position.2 ∈ kind.finalizes handle := by
  cases call with
  | release kind index =>
    rcases found : held[index]? with _ | handle
    · simp [finalizes, found] at member
    · simp only [finalizes, found, List.mem_map] at member
      obtain ⟨element, elementMember, rfl⟩ := member
      exact ⟨kind, handle, rfl, found, elementMember⟩
  | construct | newArray | write => simp [finalizes] at member

theorem finalizes_nodup (call : TypedCall) (held : List TypedHandle) : (call.finalizes held).Nodup := by
  cases call with
  | release kind index =>
    simp only [finalizes]
    split
    · exact (kind.finalizes_nodup).map fun _ _ same => (Prod.mk.inj same).2
    · exact List.nodup_nil
  | construct | newArray | write => exact List.nodup_nil

/-- A call keeps every handle the run holds, and a dead one stays dead. -/
theorem apply_dead (call : TypedCall) {held : List TypedHandle} (allocator : Allocator) {index : Nat}
    {handle : TypedHandle} (found : held[index]? = some handle) (dead : handle.live = false) :
    ∃ kept, (call.apply held allocator).1[index]? = some kept ∧ kept.live = false := by
  obtain ⟨inside, -⟩ := List.getElem?_eq_some_iff.mp found
  have made (element : ElementType) (count : Nat) (result : Except Fault (Except MemError Block)) :
      (madeFrom held element count result)[index]? = some handle := by
    unfold madeFrom
    split
    · rw [List.getElem?_append_left inside]
      exact found
    · exact found
  cases call with
  | construct element value tag => exact ⟨handle, made element 1 _, dead⟩
  | newArray element count tag => exact ⟨handle, made element count.toNat _, dead⟩
  | release kind released =>
    simp only [apply]
    split
    · exact ⟨handle, found, dead⟩
    · unfold releasedFrom
      split
      · simp only [List.getElem?_map, found, Option.map_some]
        exact ⟨_, rfl, TypedHandle.releasedAt_live _ dead⟩
      · exact ⟨handle, found, dead⟩
  | write written offset bytes =>
    simp only [apply]
    split
    · exact ⟨handle, found, dead⟩
    · split <;> exact ⟨handle, found, dead⟩

end TypedCall

namespace Holding

variable {held : List TypedHandle} {allocator : Allocator} {placed : List Placed}

/-- A release that finalizes an element of a handle leaves the handle dead: it releases a live
frame and never stops. -/
theorem finalized_dead (holding : Holding held allocator placed) {kind : Release} {index : Nat}
    {handle : TypedHandle} (found : held[index]? = some handle) {element : Nat} (member : element ∈ kind.finalizes handle) :
    ∃ kept, ((TypedCall.release kind index).apply held allocator).1[index]? = some kept ∧ kept.live = false := by
  have live := Release.live_of_mem_finalizes member
  obtain ⟨before, block, after, rfl, address, blockLive, frames, positive⟩ :=
    holding.framed (List.mem_of_getElem? found) live
  have run := Release.operation_live holding.books holding.unchecked address blockLive live frames positive
    (Release.ne_free_of_mem_finalizes member)
  simp only [TypedCall.apply, found, run, releasedFrom, List.getElem?_map, Option.map_some]
  exact ⟨_, rfl, handle.releasedAt_self⟩

/-- One call finalizes only elements not finalized before, each once, and leaves their handles dead. -/
theorem spent_apply (holding : Holding held allocator placed) (call : TypedCall) {trace : List (Nat × Nat)}
    (spent : Spent held trace) (nodup : trace.Nodup) :
    Spent (call.apply held allocator).1 (trace ++ call.finalizes held) ∧ (trace ++ call.finalizes held).Nodup := by
  refine ⟨fun position member => ?_, List.nodup_append.mpr ⟨nodup, call.finalizes_nodup held, ?_⟩⟩
  · rcases List.mem_append.mp member with old | new
    · obtain ⟨handle, found, dead⟩ := spent position old
      exact call.apply_dead allocator found dead
    · obtain ⟨kind, handle, rfl, found, finalized⟩ := TypedCall.mem_finalizes new
      exact holding.finalized_dead found finalized
  · -- an element finalized before belongs to a dead handle, one finalized now to a live one
    rintro position old _ new rfl
    obtain ⟨handle, found, dead⟩ := spent position old
    obtain ⟨kind, handle', _, found', finalized⟩ := TypedCall.mem_finalizes new
    have same : handle = handle' := Option.some.inj (found.symm.trans found')
    subst same
    rw [Release.live_of_mem_finalizes finalized] at dead
    cases dead

/-- Along a run, the invariant holds before every call, so every call is faithful, and the
elements finalized so far are each finalized once. -/
theorem run (script : List TypedCall) {held : List TypedHandle} {allocator : Allocator} {placed : List Placed}
    {trace : List (Nat × Nat)} (holding : Holding held allocator placed) (spent : Spent held trace)
    (nodup : trace.Nodup) (sound : ∀ call ∈ script, call.Sound) (room : placed.length + script.length < 2 ^ 32) :
    (trace ++ finalizedBy script (held, allocator)).Nodup ∧
      ∀ before call after, script = before ++ call :: after →
        Faithful (runTyped before (held, allocator)).1 (runTyped before (held, allocator)).2 call := by
  induction script generalizing held allocator placed trace with
  | nil =>
    refine ⟨by simpa [finalizedBy] using nodup, fun before call after split => ?_⟩
    simp at split
  | cons call rest inductionHypothesis =>
    obtain ⟨grown, holds, grownLength⟩ := holding.apply (sound call (by simp)) (by simp at room; omega)
    obtain ⟨spentNext, nodupNext⟩ := holding.spent_apply call spent nodup
    obtain ⟨nodupRest, faithfulRest⟩ := inductionHypothesis holds spentNext nodupNext
      (fun later member => sound later (by simp [member])) (by simp at room; omega)
    refine ⟨by simpa [finalizedBy, List.append_assoc] using nodupRest, fun before called after split => ?_⟩
    cases before with
    | nil =>
      obtain ⟨rfl, -⟩ := List.cons.inj split
      exact holding.faithful _
    | cons first earlier =>
      obtain ⟨rfl, restSplit⟩ := List.cons.inj split
      exact faithfulRest earlier called after restSplit

end Holding

/-- A run of typed calls on an allocator whose books hold, on either backend, from no handles:
every call is faithful to the run's account of what it holds (liveness as the account says,
finalizers only on the elements of handles live at the call and exactly the ones the release
names, whole frames released with their elements cleared), and over the whole run no element of
any value or array it made is finalized twice. -/
theorem typed_runs_finalize_once_and_release_frames {start : Allocator} {placed : List Placed}
    (books : Books start placed) (unchecked : start.leakRan = false) (script : List TypedCall)
    (sound : ∀ call ∈ script, call.Sound) (room : placed.length + script.length < 2 ^ 32) :
    (finalizedBy script ([], start)).Nodup ∧
      ∀ before call after, script = before ++ call :: after →
        Faithful (runTyped before ([], start)).1 (runTyped before ([], start)).2 call := by
  have holding : Holding [] start placed := ⟨books, unchecked, fun _ absent => by cases absent⟩
  have spent : Spent [] [] := fun _ absent => by cases absent
  simpa using holding.run script spent List.nodup_nil sound room

/-- An array of two finalized values destroyed twice, then a value constructed and destroyed,
from a fresh allocator. -/
theorem typed_runs_finalize_once_and_release_frames_fresh :
    let resource : ElementType := { name := "main.res", size := 8, alignment := 8, finalized := true }
    let script : List TypedCall := [.newArray resource 2 "pair", .release .destroyArray 0,
      .release .destroyArray 0, .construct resource [7, 0, 0, 0, 0, 0, 0, 0] "one", .release .destroy 1]
    (Books ({} : Allocator) [] ∧ ({} : Allocator).leakRan = false ∧ (∀ call ∈ script, call.Sound) ∧
      ([] : List Placed).length + script.length < 2 ^ 32) ∧
    (finalizedBy script ([], {})).Nodup ∧
      ∀ before call after, script = before ++ call :: after →
        Faithful (runTyped before ([], {})).1 (runTyped before ([], {})).2 call := by
  intro resource script
  have sound : ∀ call ∈ script, call.Sound := by decide
  exact ⟨⟨Books.fresh, rfl, sound, by decide⟩,
    typed_runs_finalize_once_and_release_frames Books.fresh rfl script sound (by decide)⟩

end HeapKit.Memory
