import Mathlib
import HeapKit.Container.Vector
import HeapKit.Proofs.Container.Mutation

/-!
# Vector storage

A vector holds a list (`Vector.Holds`) when its length is the list's and its storage, read as a
list, is the list followed by zero values up to the capacity. Every storage place past the length
then holds the zero value, and the elements are the first `length` places.

This file follows each primitive of a vector on storage of that shape: which places it writes, as
a splice of the storage list, and when it asks for new storage. Growing for `needed` elements
leaves the capacity alone when they fit and makes it the larger of `needed` and twice the capacity
otherwise (`grownCapacity`); only that request can be refused (`Refused`).
-/

namespace HeapKit

namespace Bounds

theorem part_eq_ok {low high : Int} {capacity : Nat} (lowNonneg : 0 ≤ low) (ordered : low ≤ high)
    (within : high ≤ capacity) : part low high capacity = .ok () := by
  unfold part Bounds.within
  have highNonneg : 0 ≤ high := le_trans lowNonneg ordered
  simp [lowNonneg, ordered, within, highNonneg]

theorem index_eq_ok {position : Int} {length : Nat} (nonneg : 0 ≤ position)
    (below : position < length) : index position length = .ok position.toNat := by
  unfold index
  simp [nonneg, below]

end Bounds

namespace Vector

variable {α σ : Type} [Inhabited α]

/-! ### Storage that holds a list -/

/-- The vector holds `items`: its length is theirs and its storage is them followed by zero values
up to the capacity. -/
def Holds (vector : Vector α) (items : List α) : Prop :=
  vector.length = items.length ∧
    vector.storage.toList = items ++ List.replicate (vector.capacity - items.length) default

/-- The capacity after making room for `needed` elements: unchanged when they fit, otherwise the
larger of `needed` and twice the capacity. -/
def grownCapacity (capacity : Nat) (needed : Int) : Nat :=
  if (capacity : Int) < needed then (max needed (2 * (capacity : Int))).toNat else capacity

theorem grownCapacity_of_le {capacity : Nat} {needed : Int} (fits : needed ≤ capacity) :
    grownCapacity capacity needed = capacity := by
  rw [grownCapacity, if_neg (by omega)]

theorem le_grownCapacity (capacity : Nat) (needed : Int) : needed ≤ grownCapacity capacity needed := by
  unfold grownCapacity
  split <;> omega

theorem capacity_le_grownCapacity (capacity : Nat) (needed : Int) :
    capacity ≤ grownCapacity capacity needed := by
  unfold grownCapacity
  split <;> omega

section Holds

variable {vector : Vector α} {items : List α}

theorem Holds.length_le (holds : vector.Holds items) : items.length ≤ vector.capacity := by
  have sizes := congrArg List.length holds.2
  simp only [Array.length_toList, List.length_append, List.length_replicate] at sizes
  unfold capacity
  omega

theorem Holds.items_eq (holds : vector.Holds items) : vector.items = .ok items := by
  have fits := holds.length_le
  unfold Vector.items
  rw [Bounds.part_eq_ok le_rfl (by rw [holds.1]; omega) (by rw [holds.1]; exact_mod_cast fits)]
  simp [holds.1, holds.2]
  rfl

/-- The storage place `index` holds the element there, or the zero value past the length. -/
theorem Holds.getElem?_storage (holds : vector.Holds items) (index : Nat) :
    vector.storage[index]? =
      if index < items.length then items[index]?
      else if index < vector.capacity then some default else none := by
  rw [← Array.getElem?_toList, holds.2, List.getElem?_append]
  split
  · rfl
  · rw [List.getElem?_replicate]
    have fits := holds.length_le
    split <;> split <;> first | rfl | omega

/-- A vector holds a list when its storage is that list and zero values, however long. -/
theorem holds_of_toList {items : List α} (count : Nat)
    (toList : vector.storage.toList = items ++ List.replicate count default)
    (length : vector.length = items.length) : vector.Holds items := by
  have sizes := congrArg List.length toList
  simp only [Array.length_toList, List.length_append, List.length_replicate] at sizes
  refine ⟨length, ?_⟩
  rw [toList, capacity, sizes, Nat.add_sub_cancel_left]

theorem holds_empty (elementSize : Nat) (accounted : Bool) :
    (empty elementSize accounted : Vector α).Holds [] :=
  holds_of_toList (inlineCapacity elementSize) (by simp [empty]) rfl

theorem storage_fresh (items : List α) (capacity : Nat) :
    (fresh items capacity).toList = items ++ List.replicate (capacity - items.length) default :=
  rfl

end Holds

/-! ### Writing storage places -/

omit [Inhabited α] in
/-- Copying values into consecutive places splices them into the storage list. -/
theorem foldl_place_toList (storage : Array α) (start : Nat) (values : List α)
    (fits : start + values.length ≤ storage.size) :
    ((((List.range values.length).map (start + ·)).zip values).foldl
      (fun (storage : Array α) (entry : Nat × α) =>
        if entry.1 < storage.size then storage.set! entry.1 entry.2 else storage) storage).toList =
      storage.toList.take start ++ values ++ storage.toList.drop (start + values.length) := by
  induction values generalizing start storage with
  | nil => simp
  | cons value rest inductionHypothesis =>
    rw [List.length_cons] at fits
    have shift : ((start + ·) ∘ Nat.succ) = ((start + 1) + ·) := by
      funext offset
      simp only [Function.comp_apply]
      omega
    rw [List.length_cons, List.range_succ_eq_map, List.map_cons, List.map_map, shift,
      List.zip_cons_cons, List.foldl_cons, Nat.add_zero, if_pos (by omega),
      inductionHypothesis _ _ (by simp only [Array.size_set!]; omega)]
    simp only [Array.set!_eq_setIfInBounds, Array.toList_setIfInBounds]
    have inside : start < storage.toList.length := by simp only [Array.length_toList]; omega
    rw [List.set_eq_take_append_cons_drop, if_pos inside]
    have taken : (storage.toList.take start).length = start := by
      simp only [List.length_take]
      omega
    have before : (storage.toList.take start).take (start + 1) = storage.toList.take start :=
      List.take_of_length_le (by omega)
    have nothing : (storage.toList.take start).drop (start + 1 + rest.length) = [] :=
      List.drop_eq_nil_of_le (by omega)
    have after : start + 1 + rest.length - start = rest.length + 1 := by omega
    simp only [List.take_append, List.drop_append, taken, before, nothing, after, List.nil_append,
      List.drop_succ_cons, List.drop_drop, List.append_assoc, List.cons_append]
    rw [show start + 1 - start = 1 by omega, show start + 1 + rest.length = start + (rest.length + 1) by
      omega]
    rfl

/-! ### Changes of a held list

Each change is stated of any vector whose storage and length are the changed ones, so that it
applies to the record an operation builds, however it builds it. -/

section Changes

variable {vector next : Vector α} {items : List α}

/-- Writing one element in place changes that element. -/
theorem Holds.set (holds : vector.Holds items) {index : Nat} (inside : index < items.length)
    (value : α) (written : next.storage = vector.storage.set! index value)
    (sameLength : next.length = vector.length) : next.Holds (items.set index value) := by
  refine holds_of_toList (vector.capacity - items.length) ?_ (by simpa [sameLength] using holds.1)
  rw [written, Array.set!_eq_setIfInBounds, Array.toList_setIfInBounds, holds.2,
    List.set_append_left _ _ inside]

/-- Writing past the last element and counting it adds it. -/
theorem Holds.push (holds : vector.Holds items) (room : items.length < vector.capacity) (value : α)
    (written : next.storage = vector.storage.set! items.length value)
    (counted : next.length = items.length + 1) : next.Holds (items ++ [value]) := by
  obtain ⟨rest, more⟩ : ∃ rest, vector.capacity - items.length = rest + 1 :=
    ⟨_, (Nat.succ_pred_eq_of_pos (by omega)).symm⟩
  refine holds_of_toList rest ?_ (by simp [counted])
  rw [written, Array.set!_eq_setIfInBounds, Array.toList_setIfInBounds, holds.2,
    List.set_append_right _ _ le_rfl, Nat.sub_self, more, List.replicate_succ, List.set_cons_zero,
    List.append_assoc, List.singleton_append]

/-- Writing consecutive places among the elements splices the values into them. -/
theorem Holds.write (holds : vector.Holds items) {start : Nat} {values : List α}
    (within : start + values.length ≤ items.length)
    (written : next.storage.toList = vector.storage.toList.take start ++ values ++
      vector.storage.toList.drop (start + values.length))
    (sameLength : next.length = vector.length) :
    next.Holds (items.take start ++ values ++ items.drop (start + values.length)) := by
  refine holds_of_toList (vector.capacity - items.length) ?_ ?_
  · rw [written, holds.2, List.take_append_of_le_length (by omega),
      List.drop_append_of_le_length within]
    simp only [List.append_assoc]
  · simp only [sameLength, holds.1, List.length_append, List.length_take, List.length_drop]
    omega

/-- Counting more places as elements adds the zero values they hold. -/
theorem Holds.extend (holds : vector.Holds items) {count : Nat} (longer : items.length ≤ count)
    (fits : count ≤ vector.capacity) (sameStorage : next.storage = vector.storage)
    (counted : next.length = count) :
    next.Holds (items ++ List.replicate (count - items.length) default) := by
  refine holds_of_toList (vector.capacity - count) ?_ (by simp [counted]; omega)
  rw [sameStorage, holds.2, List.append_assoc, List.replicate_append_replicate]
  congr 2
  omega

/-- Counting fewer places as elements drops the zero values written past them. -/
theorem Holds.truncate {kept : List α} {count : Nat}
    (holds : vector.Holds (kept ++ List.replicate count default))
    (sameStorage : next.storage = vector.storage) (counted : next.length = kept.length) :
    next.Holds kept := by
  refine holds_of_toList (count + (vector.capacity - (kept ++ List.replicate count default).length))
    ?_ counted
  rw [sameStorage, holds.2, List.append_assoc, List.replicate_append_replicate]

/-- Inserting by two writes: the elements from `position` on are written `values.length` places
further up, past the length, and then `values` into the gap. Counted up to the new length, the
storage holds the list with `values` inserted at `position`. -/
theorem Holds.insertWrites (holds : vector.Holds items) {position : Nat}
    (inside : position ≤ items.length) {values : List α}
    (room : items.length + values.length ≤ vector.capacity) {shifted inserted : Array α}
    (shiftedWritten : shifted.toList = vector.storage.toList.take (position + values.length) ++
      items.drop position ++
        vector.storage.toList.drop (position + values.length + (items.drop position).length))
    (insertedWritten : inserted.toList = shifted.toList.take position ++ values ++
      shifted.toList.drop (position + values.length)) :
    ({ vector with storage := inserted, length := items.length + values.length } : Vector α).Holds
      (items.take position ++ values ++ items.drop position) := by
  -- counted up to the new length, the shifted elements and then the values are written
  have extended : ({ vector with length := items.length + values.length } : Vector α).Holds
      (items ++ List.replicate (items.length + values.length - items.length) default) :=
    holds.extend (Nat.le_add_right _ _) room rfl (by push_cast; rfl)
  have shiftedHolds := extended.write (by simp; omega) shiftedWritten
    (show ({ vector with storage := shifted, length := items.length + values.length } :
      Vector α).length = _ from rfl)
  have insertedHolds :
      ({ vector with storage := inserted, length := items.length + values.length } :
        Vector α).Holds _ :=
    shiftedHolds.write (by simp; omega) insertedWritten rfl
  -- the shifted storage is the elements before the gap, the gap and the moved elements
  have padded : (items ++ List.replicate (items.length + values.length - items.length)
      default).length = items.length + values.length := by simp
  have beyond : (items ++ List.replicate (items.length + values.length - items.length)
      default).drop (position + values.length + (items.drop position).length) = [] :=
    List.drop_eq_nil_of_le (by rw [padded, List.length_drop]; omega)
  rw [beyond, List.append_nil,
    List.take_append_of_le_length (by simp; omega), List.take_take, Nat.min_eq_left (by omega),
    List.take_append_of_le_length inside,
    List.drop_left' (by rw [List.length_take, padded]; omega)] at insertedHolds
  exact insertedHolds

end Changes

/-! ### The primitives, one step each -/

section Primitives

variable {vector : Vector α}

omit [Inhabited α] in
theorem returns_setLength (length : Int) :
    Mutation.Returns (setLength length : Mutation σ (Vector α) Unit) vector
      fun _ next => next = { vector with length } :=
  Mutation.returns_modifyContainer _

omit [Inhabited α] in
theorem returns_copyInto (start : Nat) (values : List α)
    (fits : start + values.length ≤ vector.capacity) :
    Mutation.Returns (copyInto start values : Mutation σ (Vector α) Unit) vector fun _ next =>
      ∃ storage : Array α, next = { vector with storage } ∧ storage.size = vector.capacity ∧
        storage.toList = vector.storage.toList.take start ++ values ++
          vector.storage.toList.drop (start + values.length) := by
  refine (Mutation.returns_modifyContainer _).mono ?_
  rintro _ _ rfl
  have written := foldl_place_toList vector.storage start values fits
  refine ⟨_, rfl, ?_, written⟩
  have sizes := congrArg List.length written
  simp only [Array.length_toList, List.length_append, List.length_take, List.length_drop] at sizes
  have inside : start + values.length ≤ vector.storage.size := fits
  unfold capacity
  omega

omit [Inhabited α] in
theorem returns_store {position : Int} (nonneg : 0 ≤ position)
    (below : position < vector.capacity) (value : α) :
    Mutation.Returns (store position value : Mutation σ (Vector α) Unit) vector fun _ next =>
      next = { vector with storage := vector.storage.set! position.toNat value } := by
  unfold store
  apply Mutation.Returns.container_bind
  rw [Bounds.index_eq_ok nonneg below, Mutation.check_ok, pure_bind]
  exact Mutation.returns_modifyContainer _

theorem returns_load {position : Int} (nonneg : 0 ≤ position) (below : position < vector.capacity) :
    Mutation.Returns (load position : Mutation σ (Vector α) α) vector fun result next =>
      result = vector.storage[position.toNat]! ∧ next = vector := by
  unfold load
  apply Mutation.Returns.container_bind
  rw [Bounds.index_eq_ok nonneg below, Mutation.check_ok, pure_bind]
  exact Mutation.returns_pure _

end Primitives

/-! ### Growing -/

/-- Growing `vector` for `needed` elements asks for storage, and that request is refused with
`fault`. -/
def Refused (provider : Provider σ) (vector : Vector α) (needed : Int) (storage : σ)
    (fault : Fault) : Prop :=
  (vector.capacity : Int) < needed ∧
    Mutation.refusal provider vector.accounted (grownCapacity vector.capacity needed)
      vector.elementSize storage = some fault

/-- `next` holds `items` in the capacity that growing `vector` for `needed` elements gives, with
the same element size and accounting. -/
def Grown (vector next : Vector α) (items : List α) (needed : Int) : Prop :=
  next.Holds items ∧ next.capacity = grownCapacity vector.capacity needed ∧
    next.elementSize = vector.elementSize ∧ next.accounted = vector.accounted

section Growing

variable (provider : Provider σ) (storage : σ) {vector : Vector α} {items : List α}

/-- Growing takes the new storage first, and only that can be refused; the elements are then
moved into it, followed by zero values. -/
theorem grow_runsTo (holds : vector.Holds items) {minCapacity : Int}
    (larger : (vector.capacity : Int) < minCapacity) :
    Mutation.RunsTo (grow provider minCapacity) vector storage
      (Refused provider vector minCapacity storage)
      fun _ next => Grown vector next items minCapacity := by
  have grown : grownCapacity vector.capacity minCapacity =
      (max minCapacity (2 * (vector.capacity : Int))).toNat := by
    rw [grownCapacity, if_pos larger]
  have fits := holds.length_le
  have refusedHere : ∀ fault, Mutation.refusal provider vector.accounted
      (max minCapacity (2 * (vector.capacity : Int))).toNat vector.elementSize storage = some fault →
      Refused provider vector minCapacity storage fault := by
    intro fault refused
    exact ⟨larger, by rw [grown]; exact refused⟩
  have longer : items.length ≤ (max minCapacity (2 * (vector.capacity : Int))).toNat := by omega
  unfold grow
  apply Mutation.RunsTo.container_bind
  refine ((Mutation.runsTo_obtain provider _ _ _).mono (fun _ _ unchanged => unchanged)
    refusedHere).bind ?_
  intro address next unchanged
  subst next
  have moved : Mutation.Returns (Mutation.modifyContainer fun (current : Vector α) =>
      { current with storage := fresh items (max minCapacity (2 * (vector.capacity : Int))).toNat,
                     heap := some address } : Mutation σ (Vector α) Unit) vector
      fun _ next => Grown vector next items minCapacity := by
    refine (Mutation.returns_modifyContainer _).mono ?_
    rintro _ _ rfl
    refine ⟨holds_of_toList _ (storage_fresh items _) holds.1, ?_, rfl, rfl⟩
    show (fresh items _).size = _
    rw [← Array.length_toList, storage_fresh, List.length_append, List.length_replicate, grown]
    omega
  rw [holds.items_eq, Mutation.check_ok, pure_bind]
  dsimp only
  -- the old storage, if any, is given back; either way the elements then move to the new one
  split
  · refine (Mutation.returns_giveBack provider _ _).bind ?_
    rintro _ _ rfl
    exact moved
  · exact moved

/-- Reserving room for `count` elements grows exactly when they do not fit. -/
theorem reserve_runsTo (holds : vector.Holds items) (count : Int) :
    Mutation.RunsTo (reserve provider count) vector storage (Refused provider vector count storage)
      fun _ next => Grown vector next items count := by
  unfold reserve
  apply Mutation.RunsTo.container_bind
  refine Mutation.RunsTo.ite (fun larger => grow_runsTo provider storage holds larger) ?_
  intro fits
  exact (Mutation.returns_pure_of ⟨holds, (grownCapacity_of_le (by omega)).symm, rfl, rfl⟩).runsTo

end Growing

/-! ### Operations that add elements -/

section Adding

variable (provider : Provider σ) (storage : σ) {vector : Vector α} {items : List α}

/-- Adding an element grows the storage exactly when it is full. -/
theorem push_runsTo (holds : vector.Holds items) (value : α) :
    Mutation.RunsTo (push provider value) vector storage
      (Refused provider vector (items.length + 1) storage)
      fun _ next => Grown vector next (items ++ [value]) (items.length + 1) := by
  have fits := holds.length_le
  unfold push
  apply Mutation.RunsTo.container_bind
  refine Mutation.RunsTo.ite_then (fun next => Grown vector next items (items.length + 1))
    (fun full => ?_) (fun notFull => ?_) fun grown grownHolds => ?_
  · have equal : vector.length = vector.capacity := beq_iff_eq.mp full
    rw [show vector.length + 1 = (items.length : Int) + 1 by rw [holds.1]]
    exact grow_runsTo provider storage holds (by rw [holds.1] at equal; omega)
  · have unequal : vector.length ≠ vector.capacity := fun equal => notFull (beq_iff_eq.mpr equal)
    rw [holds.1] at unequal
    exact ⟨holds, (grownCapacity_of_le (by omega)).symm, rfl, rfl⟩
  · obtain ⟨grownHolds, capacityEq, sizeEq, accountedEq⟩ := grownHolds
    have room : items.length < grown.capacity := by
      have := le_grownCapacity vector.capacity (items.length + 1)
      omega
    refine Mutation.Returns.container_bind ?_
    refine (returns_store (by rw [grownHolds.1]; omega) (by rw [grownHolds.1]; omega) value).bind ?_
    rintro _ _ rfl
    refine Mutation.Returns.container_bind ?_
    refine (returns_setLength _).mono ?_
    rintro _ _ rfl
    refine ⟨grownHolds.push room value (by rw [grownHolds.1, Int.toNat_natCast])
      (by rw [grownHolds.1]), ?_, sizeEq, accountedEq⟩
    rw [← capacityEq]
    exact Array.size_set! _ _ _

/-- Adding values at the end grows the storage exactly when they do not fit. -/
theorem append_runsTo (holds : vector.Holds items) (values : List α) :
    Mutation.RunsTo (append provider values) vector storage
      (Refused provider vector (items.length + values.length) storage)
      fun _ next => Grown vector next (items ++ values) (items.length + values.length) := by
  unfold append
  apply Mutation.RunsTo.container_bind
  rw [holds.1]
  refine (reserve_runsTo provider storage holds _).bind ?_
  rintro _ grown ⟨grownHolds, capacityEq, sizeEq, accountedEq⟩
  have room : items.length + values.length ≤ grown.capacity := by
    have := le_grownCapacity vector.capacity (items.length + values.length)
    omega
  refine Mutation.Returns.container_bind ?_
  rw [Bounds.part_eq_ok (by rw [grownHolds.1]; omega) (by rw [grownHolds.1]; omega) le_rfl,
    Mutation.check_ok, pure_bind, grownHolds.1, Int.toNat_natCast]
  refine (returns_copyInto _ values (by omega)).bind ?_
  rintro _ _ ⟨copied, rfl, sameSize, written⟩
  refine (returns_setLength _).mono ?_
  rintro _ _ rfl
  -- the places past the elements are counted first, then the values written over them
  have extended : ({ grown with length := items.length + values.length } : Vector α).Holds
      (items ++ List.replicate (items.length + values.length - items.length) default) :=
    grownHolds.extend (Nat.le_add_right _ _) room rfl (by push_cast; rfl)
  refine ⟨?_, sameSize.trans capacityEq, sizeEq, accountedEq⟩
  have spliced : items ++ values =
      (items ++ List.replicate (items.length + values.length - items.length) default).take
        items.length ++ values ++
      (items ++ List.replicate (items.length + values.length - items.length) default).drop
        (items.length + values.length) := by
    simp
  rw [spliced]
  exact extended.write (by simp) written (by simp)

/-- The position after inserted values, computed in machine words, is exact while the length
after the insertion is a word. -/
theorem toInt_ofInt_add_ofInt {position count : Nat} (word : position + count < 2 ^ 63) :
    (Int64.ofInt position + Int64.ofInt count).toInt = position + count := by
  rw [Int64.toInt_add, Int64.toInt_ofInt, Int64.toInt_ofInt]
  have small : ∀ value : Nat, value < 2 ^ 63 → (value : Int).bmod (2 ^ 64) = value :=
    fun value below => Int.bmod_eq_of_le (by omega) (by omega)
  rw [show Int64.size = 2 ^ 64 from rfl, small position (by omega), small count (by omega)]
  exact_mod_cast small (position + count) word

/-- Inserting values before a position shifts the later elements up by their count, then writes
the values into the gap; the storage grows exactly when they do not fit. -/
theorem insert_runsTo (holds : vector.Holds items) {position : Nat}
    (inside : position ≤ items.length) (values : List α)
    (word : items.length + values.length < 2 ^ 63) :
    Mutation.RunsTo (insert provider position values) vector storage
      (Refused provider vector (items.length + values.length) storage)
      fun _ next => Grown vector next (items.take position ++ values ++ items.drop position)
        (items.length + values.length) := by
  have fits := holds.length_le
  unfold insert
  dsimp only
  split
  · -- no values: nothing happens
    rename_i noValues
    have empty : values = [] := List.eq_nil_of_length_eq_zero (by simpa using noValues)
    subst empty
    exact Mutation.Returns.runsTo (Mutation.returns_pure_of
      ⟨by simpa using holds, (grownCapacity_of_le (by simpa using fits)).symm, rfl, rfl⟩)
  · rename_i someValues
    apply Mutation.RunsTo.container_bind
    rw [holds.1]
    refine (reserve_runsTo provider storage holds _).bind ?_
    rintro _ grown ⟨grownHolds, capacityEq, sizeEq, accountedEq⟩
    have room : items.length + values.length ≤ grown.capacity := by
      have := le_grownCapacity vector.capacity (items.length + values.length)
      omega
    refine Mutation.Returns.container_bind ?_
    -- the elements from the position on, which are moved up
    have moved : (grown.storage.toList.drop position).take (items.length - position) =
        items.drop position := by
      rw [grownHolds.2, List.drop_append_of_le_length inside,
        List.take_append_of_le_length (by simp)]
      exact List.take_of_length_le (by simp)
    rw [toInt_ofInt_add_ofInt (by omega), grownHolds.1, Int.toNat_natCast,
      show ((items.length : Int) - position).toNat = items.length - position by omega,
      show ((position : Int) + values.length).toNat = position + values.length by omega,
      Bounds.part_eq_ok (by positivity) (by omega) (by omega), Mutation.check_ok, pure_bind,
      Bounds.part_eq_ok (by positivity) (by omega) (by omega), Mutation.check_ok, pure_bind, moved]
    refine (returns_copyInto _ _ (by simp; omega)).bind ?_
    rintro _ _ ⟨shiftedStorage, rfl, shiftedSize, shiftedWritten⟩
    rw [Bounds.part_eq_ok (by positivity) (by omega) le_rfl, Mutation.check_ok, pure_bind]
    refine (returns_copyInto _ values (by show _ ≤ shiftedStorage.size; omega)).bind ?_
    rintro _ _ ⟨insertedStorage, rfl, insertedSize, insertedWritten⟩
    refine (returns_setLength _).mono ?_
    rintro _ _ rfl
    exact ⟨grownHolds.insertWrites inside room shiftedWritten insertedWritten,
      insertedSize.trans (shiftedSize.trans capacityEq), sizeEq, accountedEq⟩

end Adding

/-! ### Operations that remove elements -/

/-- `next` holds `items` in the capacity of `vector`, with the same element size and accounting. -/
def Kept (vector next : Vector α) (items : List α) : Prop :=
  next.Holds items ∧ next.capacity = vector.capacity ∧ next.elementSize = vector.elementSize ∧
    next.accounted = vector.accounted

theorem Kept.grown {vector next : Vector α} {items : List α} {needed : Int}
    (kept : Kept vector next items) (fits : needed ≤ vector.capacity) :
    Grown vector next items needed :=
  ⟨kept.1, kept.2.1.trans (grownCapacity_of_le fits).symm, kept.2.2⟩

section Removing

variable {vector next : Vector α} {items : List α}

/-- Zeroing the last element and counting one fewer drops it. -/
theorem Holds.retire {kept : List α} {last : α} (holds : vector.Holds (kept ++ [last]))
    (written : next.storage = vector.storage.set! kept.length default)
    (counted : next.length = kept.length) : next.Holds kept := by
  refine holds_of_toList (vector.capacity - (kept ++ [last]).length + 1) ?_ counted
  rw [written, Array.set!_eq_setIfInBounds, Array.toList_setIfInBounds, holds.2, List.append_assoc,
    List.singleton_append, List.set_append_right _ _ le_rfl, Nat.sub_self, List.set_cons_zero,
    List.replicate_succ]

theorem Holds.getElem!_storage (holds : vector.Holds items) {index : Nat}
    (inside : index < items.length) : vector.storage[index]! = items[index] := by
  rw [getElem!_def, holds.getElem?_storage, if_pos inside, List.getElem?_eq_getElem inside]

variable (provider : Provider σ)

theorem returns_remove (holds : vector.Holds items) {position : Nat}
    (inside : position < items.length) :
    Mutation.Returns (remove position : Mutation σ (Vector α) Unit) vector
      fun _ next => Kept vector next (items.eraseIdx position) := by
  have fits := holds.length_le
  have moved : (vector.storage.toList.drop (position + 1)).take (items.length - position - 1) =
      items.drop (position + 1) := by
    rw [holds.2, List.drop_append_of_le_length inside, List.take_append_of_le_length (by simp; omega)]
    exact List.take_of_length_le (by simp; omega)
  unfold remove
  apply Mutation.Returns.container_bind
  dsimp only
  rw [holds.1, Bounds.part_eq_ok (by positivity) (by omega) le_rfl, Mutation.check_ok, pure_bind,
    Bounds.part_eq_ok (by positivity) (by omega) (by omega), Mutation.check_ok, pure_bind,
    show ((position : Int) + 1).toNat = position + 1 by omega,
    show ((items.length : Int) - position - 1).toNat = items.length - position - 1 by omega,
    Int.toNat_natCast, moved]
  refine (returns_copyInto _ _ (by simp; omega)).bind ?_
  rintro _ _ ⟨shiftedStorage, rfl, shiftedSize, shiftedWritten⟩
  refine (returns_setLength _).bind ?_
  rintro _ _ rfl
  refine (returns_store (by omega) (by show _ < (shiftedStorage.size : Int); omega) default).mono ?_
  rintro _ _ rfl
  refine ⟨?_, (Array.size_set! _ _ _).trans shiftedSize, rfl, rfl⟩
  -- the later elements move down one place, which leaves the last one twice; its copy is zeroed
  have shifted := holds.write (by simp; omega) shiftedWritten
    (show ({ vector with storage := shiftedStorage } : Vector α).length = _ from rfl)
  have erased : items.length - 1 = (items.eraseIdx position).length :=
    (List.length_eraseIdx_of_lt inside).symm
  have lastOne : items.drop (items.length - 1) = [items[items.length - 1]] := by
    rw [List.drop_eq_getElem_cons (show items.length - 1 < items.length by omega),
      List.drop_eq_nil_of_le (show items.length ≤ items.length - 1 + 1 by omega)]
  rw [List.length_drop, show position + (items.length - (position + 1)) = items.length - 1 by omega,
    lastOne, ← List.eraseIdx_eq_take_drop_succ] at shifted
  exact shifted.retire
    (by rw [← erased, show ((items.length : Int) - 1).toNat = items.length - 1 by omega])
    (by show (items.length : Int) - 1 = _; rw [← erased]; omega)

/-- The last storage place among the elements holds the last element. -/
theorem Holds.getElem!_last (holds : vector.Holds items) (nonempty : items ≠ []) :
    vector.storage[((items.length : Int) - 1).toNat]! = items.getLastD default := by
  have positive := List.length_pos_iff.mpr nonempty
  rw [show ((items.length : Int) - 1).toNat = items.length - 1 by omega,
    holds.getElem!_storage (by omega), List.getLastD_eq_getLast?,
    List.getLast?_eq_some_getLast nonempty, List.getLast_eq_getElem]
  rfl

/-- Zeroing the last element and counting one fewer drops it, for any nonempty list. -/
theorem Holds.dropLast (holds : vector.Holds items) (nonempty : items ≠ [])
    (written : next.storage = vector.storage.set! (items.length - 1) default)
    (counted : next.length = (items.length : Int) - 1) : next.Holds items.dropLast := by
  have positive := List.length_pos_iff.mpr nonempty
  rw [← List.dropLast_concat_getLast nonempty] at holds
  have shorter : items.dropLast.length = items.length - 1 := List.length_dropLast
  exact holds.retire (by rw [shorter]; exact written) (by rw [shorter, counted]; omega)

theorem returns_removeSwap (holds : vector.Holds items) {position : Nat}
    (inside : position < items.length) :
    Mutation.Returns (removeSwap position : Mutation σ (Vector α) Unit) vector
      fun _ next => Kept vector next (items.set position (items.getLastD default)).dropLast := by
  have fits : items.length ≤ vector.storage.size := holds.length_le
  have nonempty : items ≠ [] := List.ne_nil_of_length_pos (by omega)
  unfold removeSwap
  apply Mutation.Returns.container_bind
  rw [holds.1]
  refine (returns_setLength _).bind ?_
  rintro _ _ rfl
  refine (returns_load (by omega) (by show _ < (vector.storage.size : Int); omega)).bind ?_
  rintro lastValue _ ⟨rfl, rfl⟩
  refine (returns_store (by positivity) (by show _ < (vector.storage.size : Int); omega) _).bind ?_
  rintro _ _ rfl
  refine (returns_store (by omega) (by simp only [capacity, Array.size_set!]; omega) _).mono ?_
  rintro _ _ rfl
  refine ⟨?_, by simp only [capacity, Array.size_set!], rfl, rfl⟩
  -- the last element is copied into the place, then its own place is zeroed and dropped
  have moved := holds.set inside (vector.storage[((items.length : Int) - 1).toNat]!)
    (show ({ vector with storage := vector.storage.set! position _ } : Vector α).storage = _ from rfl)
    rfl
  rw [holds.getElem!_last nonempty] at moved ⊢
  exact moved.dropLast (List.ne_nil_of_length_pos (by simp; omega))
    (by simp only [List.length_set, Int.toNat_natCast]; congr 1; omega) (by simp)

/-- Removing the last element returns it. -/
theorem returns_pop (holds : vector.Holds items) (nonempty : items ≠ []) :
    Mutation.Returns (pop : Mutation σ (Vector α) α) vector
      fun value next => value = items.getLastD default ∧ Kept vector next items.dropLast := by
  have fits : items.length ≤ vector.storage.size := holds.length_le
  have positive := List.length_pos_iff.mpr nonempty
  unfold pop
  apply Mutation.Returns.container_bind
  rw [holds.1]
  refine (returns_setLength _).bind ?_
  rintro _ _ rfl
  refine (returns_load (by omega) (by show _ < (vector.storage.size : Int); omega)).bind ?_
  rintro lastValue _ ⟨rfl, rfl⟩
  refine (returns_store (by omega) (by show _ < (vector.storage.size : Int); omega) _).bind ?_
  rintro _ _ rfl
  refine Mutation.returns_pure_of
    ⟨holds.getElem!_last nonempty, ?_, by simp only [capacity, Array.size_set!], rfl, rfl⟩
  exact holds.dropLast nonempty (by simp only; congr 1; omega) (by simp)

/-- Setting an element in range writes its storage place. -/
theorem Holds.set_eq (holds : vector.Holds items) {position : Nat} (inside : position < items.length)
    (value : α) : vector.set position value = .ok { vector with storage := vector.storage.set! position value } := by
  unfold Vector.set
  rw [holds.items_eq]
  simp only [bind, Except.bind]
  rw [Bounds.index_eq_ok (by positivity) (by exact_mod_cast inside), Int.toNat_natCast]

end Removing

/-! ### Resizing, clearing and releasing -/

section Resetting

variable (provider : Provider σ) (storage : σ) {vector : Vector α} {items : List α}

/-- Resizing to more elements reserves room for them and counts the zero values past the old
length; resizing to fewer zeroes the places dropped. -/
theorem resize_runsTo (holds : vector.Holds items) (count : Nat) :
    Mutation.RunsTo (resize provider count) vector storage (Refused provider vector count storage)
      fun _ next => Grown vector next
        (items.take count ++ List.replicate (count - items.length) default) count := by
  have fits : items.length ≤ vector.storage.size := holds.length_le
  unfold resize
  apply Mutation.RunsTo.container_bind
  dsimp only
  rw [holds.1]
  refine Mutation.RunsTo.ite (fun longer => ?_) (fun notLonger => ?_)
  · -- more elements: whatever growing gives, the new places already hold zero values
    refine (reserve_runsTo provider storage holds _).bind ?_
    rintro _ grown ⟨grownHolds, capacityEq, sizeEq, accountedEq⟩
    refine (returns_setLength _).mono ?_
    rintro _ _ rfl
    have room : count ≤ grown.capacity := by
      have := le_grownCapacity vector.capacity count
      omega
    rw [List.take_of_length_le (by omega)]
    exact ⟨grownHolds.extend (by omega) room rfl rfl, capacityEq, sizeEq, accountedEq⟩
  · -- fewer elements: the places from `count` to the old length are zeroed
    have shorter : count ≤ items.length := by omega
    rw [Bounds.part_eq_ok (by positivity) (by omega) (by exact_mod_cast fits), Mutation.check_ok,
      pure_bind, Int.toNat_natCast,
      show ((items.length : Int) - count).toNat = items.length - count by omega]
    refine Mutation.Returns.runsTo ?_
    refine (returns_copyInto count (List.replicate (items.length - count) (default : α)) ?_).bind ?_
    · simp only [List.length_replicate, capacity]
      omega
    rintro _ _ ⟨zeroed, rfl, zeroedSize, zeroedWritten⟩
    refine (returns_setLength _).mono ?_
    rintro _ _ rfl
    have written := holds.write (by simp; omega) zeroedWritten
      (show ({ vector with storage := zeroed } : Vector α).length = _ from rfl)
    rw [List.length_replicate, Nat.add_sub_cancel' shorter, List.drop_length, List.append_nil]
      at written
    rw [Nat.sub_eq_zero_of_le shorter, List.replicate_zero, List.append_nil]
    refine Kept.grown ⟨written.truncate rfl ?_, zeroedSize, rfl, rfl⟩
      (show (count : Int) ≤ vector.storage.size by omega)
    simp only [List.length_take]
    omega

/-- Clearing zeroes the elements and keeps the capacity. -/
theorem returns_clear (holds : vector.Holds items) :
    Mutation.Returns (clear : Mutation σ (Vector α) Unit) vector fun _ next => Kept vector next [] := by
  have fits : items.length ≤ vector.storage.size := holds.length_le
  unfold clear
  apply Mutation.Returns.container_bind
  rw [holds.items_eq, Mutation.check_ok, pure_bind]
  refine (returns_copyInto 0 (List.replicate items.length (default : α)) ?_).bind ?_
  · simp only [List.length_replicate, Nat.zero_add, capacity]
    exact fits
  rintro _ _ ⟨zeroed, rfl, zeroedSize, zeroedWritten⟩
  refine (returns_setLength _).mono ?_
  rintro _ _ rfl
  have written := holds.write (by simp) zeroedWritten
    (show ({ vector with storage := zeroed } : Vector α).length = _ from rfl)
  rw [List.take_zero, List.nil_append, List.length_replicate, Nat.zero_add, List.drop_length,
    List.append_nil, ← List.nil_append (List.replicate _ _)] at written
  exact ⟨written.truncate rfl rfl, zeroedSize, rfl, rfl⟩

/-- Releasing gives back outside storage and leaves an empty vector with inline storage. -/
theorem returns_release :
    Mutation.Returns (release provider : Mutation σ (Vector α) Unit) vector
      fun _ next => next = empty vector.elementSize vector.accounted := by
  unfold release
  apply Mutation.Returns.container_bind
  dsimp only
  -- outside storage, if any, goes back before the empty vector replaces this one
  split
  · refine (Mutation.returns_giveBack provider _ _).bind ?_
    rintro _ _ rfl
    exact Mutation.returns_setContainer _
  · exact Mutation.returns_setContainer _

/-- A copy is a fresh vector to which the elements are added: only its storage request can be
refused, and the vector copied is left as it is. -/
theorem copy_runsTo (holds : vector.Holds items) :
    Mutation.RunsTo (copy provider) vector storage
      (Refused provider (empty vector.elementSize vector.accounted : Vector α) items.length storage)
      fun copied next => next = vector ∧
        Grown (empty vector.elementSize vector.accounted) copied items items.length := by
  unfold copy
  apply Mutation.RunsTo.container_bind
  rw [holds.items_eq, Mutation.check_ok, pure_bind]
  have appended := append_runsTo provider storage
    (holds_empty vector.elementSize vector.accounted : (empty _ _ : Vector α).Holds []) items
  rw [List.nil_append, List.length_nil, Nat.cast_zero, zero_add] at appended
  have copied : Mutation.RunsTo
      (do append provider items; Mutation.container : Mutation σ (Vector α) (Vector α))
      (empty vector.elementSize vector.accounted) storage
      (Refused provider (empty vector.elementSize vector.accounted) items.length storage)
      fun copied _ => Grown (empty vector.elementSize vector.accounted) copied items items.length :=
    appended.bind fun _ _ grown =>
      Mutation.returns_container.mono fun _ _ returned => returned.1 ▸ grown
  refine (Mutation.RunsTo.focus copied rfl).mono ?_ fun _ refused => refused
  rintro copy _ ⟨_, grown, rfl⟩
  exact ⟨rfl, grown⟩

end Resetting

end Vector

end HeapKit
