import HeapKit.Proofs.Memory.Frames

/-!
# Typed releases on an allocator with books

A destroy, an array free and an array destroy of a live frame, on an allocator whose books hold,
do exactly this: a destroy runs the finalizer of the value when its type has one, an array destroy
runs the finalizers of every element in order, and then each frees the frame, which passes every
check, and clears the bytes it released (`Allocator.clearedFree`). Clearing writes inside the
freed frame's payload, so the books hold with the frame freed; the usage drops by one block and
by the frame's length, whatever capacity the release was given.

At an address where nothing live is placed (`FreedAt`), none of the three runs a finalizer, and
each keeps the books and the counts (`Untouched`): the free it makes is refused, as a double free
or as a free of the nil block, so nothing is cleared.
-/

namespace HeapKit.Memory

open HeapKit.Endian Allocator

/-- The allocator after a live block is freed and `clear` bytes of its payload are zeroed. -/
def Allocator.clearedFree (allocator : Allocator) (block : Placed) (clear : Nat) : Allocator :=
  { allocator.freedPlaced block with
    space := (allocator.freedPlaced block).space.write block.payload (List.replicate clear 0) }

/-- An address at which nothing live is placed: none, or the payload of a freed block. -/
def FreedAt (placed : List Placed) (address : Option Nat) : Prop :=
  ∀ payload, address = some payload → ∃ block ∈ placed, block.payload = payload ∧ block.live = false

/-- A release that freed nothing: the books hold over the same blocks, the leak check has not
run, no finalizer ran and the counts are as they were. -/
structure Untouched (placed : List Placed) (allocator next : Allocator) : Prop where
  books : Books next placed
  unchecked : next.leakRan = false
  finalized : next.journal.finalized = allocator.journal.finalized
  usage : next.usage = allocator.usage

theorem clearedAfter_of_ne {address : Option Nat} {length : Nat} {result : Except Fault (Option MemError)}
    (failed : result ≠ .ok none) (allocator : Allocator) : clearedAfter address length result allocator = allocator := by
  unfold clearedAfter
  split
  · exact absurd rfl failed
  · rfl

namespace Books

variable {allocator : Allocator} {placed before after : List Placed} {block : Placed}

/-! ### Live frames -/

section Live

variable (books : Books allocator (before ++ block :: after)) (live : block.live = true)
  (unchecked : allocator.leakRan = false) (typed : block.header.kind = BlockKind.typed.code)
include books live unchecked typed

theorem freeThenClear_live (length : Int) (clear : Nat) :
    (Allocator.free ⟨some block.payload, length⟩ .typed >>= fun outcome =>
      if outcome.isNone = true then writeBytes block.payload (List.replicate clear 0) >>= fun _ => pure outcome
      else pure outcome).run.run allocator = (.ok none, allocator.clearedFree block clear) := by
  rw [run_bind, books.free_live live unchecked typed]
  rfl

/-- A destroy of a live frame runs the finalizer of the value when its type has one, frees the
frame and clears the value. -/
theorem destroy_live (element : ElementType) :
    (Allocator.destroy element (some block.payload)).run.run allocator =
      (.ok none, (if element.finalized then recordFinalized [identifierAt allocator.space block.payload] allocator
          else allocator).clearedFree block element.size) := by
  have member : block ∈ before ++ block :: after := by simp
  unfold Allocator.destroy
  simp only [run_bind, books.isLive_run member, live, Bool.and_true]
  cases element.finalized
  · exact books.freeThenClear_live live unchecked typed _ _
  · simp only [if_true]
    rw [run_bind, finalize_run]
    exact (books.of_core (core_recordFinalized _ _)).freeThenClear_live live unchecked typed _ _

/-- An array free of a live frame, with any capacity but none, frees the frame and clears the
capacity's elements. -/
theorem freeArray_live (element : ElementType) {capacity : Nat} (nonempty : capacity ≠ 0) :
    (Allocator.freeArray element (some block.payload) capacity).run.run allocator =
      (.ok none, allocator.clearedFree block (capacity * element.size)) := by
  rcases running : (Allocator.freeArray element (some block.payload) capacity).run.run allocator with
    ⟨result, next⟩
  rcases freeArray_cases running with ⟨empty, -⟩ | ⟨-, freed, freeing, rfl⟩
  · exact absurd empty nonempty
  · rw [books.free_live live unchecked typed] at freeing
    cases freeing
    rfl

/-- An array destroy of a live frame runs the finalizers of the capacity's elements in order when
the type has one, then frees the frame and clears the elements. -/
theorem destroyArray_live (element : ElementType) {capacity : Nat} (nonempty : capacity ≠ 0) :
    (Allocator.destroyArray element (some block.payload) capacity).run.run allocator =
      (.ok none, (if element.finalized then
          recordFinalized ((List.range capacity).map fun index =>
            identifierAt allocator.space (block.payload + index * element.size)) allocator
        else allocator).clearedFree block (capacity * element.size)) := by
  have member : block ∈ before ++ block :: after := by simp
  have positive : (0 < capacity) = True := eq_true (Nat.pos_of_ne_zero nonempty)
  unfold Allocator.destroyArray
  simp only [run_bind, books.isLive_run member, live, Bool.and_true, positive, decide_true, Bool.true_and,
    Option.getD_some]
  cases element.finalized
  · exact books.freeArray_live live unchecked typed element nonempty
  · simp only [if_true]
    rw [run_bind, finalizeEach_run]
    exact (books.of_core (core_recordFinalized _ _)).freeArray_live live unchecked typed element nonempty

end Live

/-- Freeing a live frame and clearing at most its length leaves the books with the frame freed,
one block and the frame's bytes fewer in use, zeros where it cleared, and the journal and the leak
check as they were. -/
theorem clearedFree_facts (books : Books allocator (before ++ block :: after)) (live : block.live = true)
    (frame : block.header.isFrame = true) {clear : Nat} (within : clear ≤ block.entry.length) :
    let next := allocator.clearedFree block clear
    Books next (before ++ block.freed :: after) ∧
      (next.usage.inUse + block.entry.length) % 2 ^ 64 = allocator.usage.inUse % 2 ^ 64 ∧
      (next.usage.blocks + 1) % 2 ^ 64 = allocator.usage.blocks % 2 ^ 64 ∧
      next.space.readOrZero block.payload clear = List.replicate clear 0 ∧
      next.journal = allocator.journal ∧ next.leakRan = allocator.leakRan := by
  intro next
  have freedBooks := books.free live frame
  have member : block.freed ∈ before ++ block.freed :: after := by simp
  have laid := books.laid block (by simp)
  have region : (allocator.freedPlaced block).space.holds block.base block.total = true :=
    (freedBooks.stored _ member).held
  have held : (allocator.freedPlaced block).space.holds block.payload
      (List.replicate clear (0 : UInt8)).length = true := by
    have := laid.headerInside
    have := laid.tailInside
    have := laid.within
    rw [List.length_replicate]
    exact Space.holds_of_within region (by omega) (by omega)
  have zeros := freedBooks.apart.readOrZero_write_self held
  rw [List.length_replicate] at zeros
  exact ⟨freedBooks.write_payload member le_rfl (by rw [List.length_replicate]; exact Nat.add_le_add_left within _),
    (books.usage_freedPlaced live).1, (books.usage_freedPlaced live).2, zeros, journal_freedPlaced block,
    leakRan_freedPlaced block⟩

/-! ### Addresses with nothing live -/

section Freed

variable {address : Option Nat} (books : Books allocator placed) (freed : FreedAt placed address)
include books freed

/-- Nothing live is placed at the address, so it is not live. -/
theorem isLive_freedAt : (isLive address).run.run allocator = (.ok false, allocator) := by
  rcases address with _ | payload
  · rfl
  · obtain ⟨block, member, rfl, dead⟩ := freed _ rfl
    rw [books.isLive_run member, dead]

variable (unchecked : allocator.leakRan = false)
include unchecked

/-- A free at an address with nothing live is refused and frees nothing. -/
theorem free_freedAt {kind : BlockKind} {length : Int} {result : Except Fault (Option MemError)} {next : Allocator}
    (run : (Allocator.free ⟨address, length⟩ kind).run.run allocator = (result, next)) :
    result ≠ .ok none ∧ Untouched placed allocator next := by
  have finalized := runsNoFinalizer_free ⟨address, length⟩ kind allocator
  rw [run] at finalized
  rcases address with _ | payload
  · obtain ⟨failed, kept⟩ := free_nil run
    exact ⟨failed, books.of_core kept, (leakRan_eq_of_core kept).trans unchecked, finalized, usage_eq_of_core kept⟩
  · obtain ⟨block, member, rfl, dead⟩ := freed _ rfl
    obtain ⟨failed, nextBooks, usage, nextUnchecked⟩ := books.free_freed member dead unchecked run
    exact ⟨failed, nextBooks, nextUnchecked, finalized, usage⟩

theorem freeThenClear_freedAt {length : Int} {clear : Nat} {result : Except Fault (Option MemError)}
    {next : Allocator}
    (run : (Allocator.free ⟨address, length⟩ .typed >>= fun outcome =>
        if outcome.isNone = true then
          writeBytes (address.getD 0) (List.replicate clear 0) >>= fun _ => pure outcome
        else pure outcome).run.run allocator = (result, next)) :
    Untouched placed allocator next := by
  obtain ⟨freedNext, freeing, rfl⟩ := freeThenClear_cases run
  obtain ⟨failed, untouched⟩ := books.free_freedAt freed unchecked freeing
  rw [clearedAfter_of_ne failed]
  exact untouched

/-- A destroy at an address with nothing live runs no finalizer and frees nothing. -/
theorem destroy_freedAt (element : ElementType) {result : Except Fault (Option MemError)} {next : Allocator}
    (run : (Allocator.destroy element address).run.run allocator = (result, next)) :
    Untouched placed allocator next := by
  unfold Allocator.destroy at run
  rcases address with _ | payload
  · obtain ⟨failed, untouched⟩ := books.free_freedAt freed unchecked run
    exact untouched
  · rw [run_bind, books.isLive_freedAt freed] at run
    simp only [Bool.and_false, Bool.false_eq_true, if_false] at run
    exact books.freeThenClear_freedAt freed unchecked run

/-- An array free at an address with nothing live frees nothing. -/
theorem freeArray_freedAt (element : ElementType) (capacity : Nat) {result : Except Fault (Option MemError)}
    {next : Allocator} (run : (Allocator.freeArray element address capacity).run.run allocator = (result, next)) :
    Untouched placed allocator next := by
  rcases freeArray_cases run with ⟨-, -, rfl⟩ | ⟨-, freedNext, freeing, rfl⟩
  · exact ⟨books, unchecked, rfl, rfl⟩
  · obtain ⟨failed, untouched⟩ := books.free_freedAt freed unchecked freeing
    rw [clearedAfter_of_ne failed]
    exact untouched

/-- An array destroy at an address with nothing live runs no finalizer and frees nothing. -/
theorem destroyArray_freedAt (element : ElementType) (capacity : Nat) {result : Except Fault (Option MemError)}
    {next : Allocator} (run : (Allocator.destroyArray element address capacity).run.run allocator = (result, next)) :
    Untouched placed allocator next := by
  unfold Allocator.destroyArray at run
  simp only [run_bind, books.isLive_freedAt freed, Bool.and_false, Bool.false_eq_true, if_false] at run
  exact books.freeArray_freedAt freed unchecked element capacity run

end Freed

end Books

end HeapKit.Memory
