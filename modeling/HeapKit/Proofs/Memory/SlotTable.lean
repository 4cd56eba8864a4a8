import HeapKit.Memory.Memlist
import Mathlib.Data.List.Nodup

/-!
# The slot table of tracked blocks

`Memlist.Sound list order` says that the table `list` holds the blocks of the
slots `order`, oldest first. Following `next` from the head visits exactly
these slots and stops at the tail, `prev` leads back along the same chain, the
chained slots and the free stack together number every slot of the table once,
and the address index maps exactly the payload addresses of chained slots to
their slot.

A sound table's chain from the head is its `order` (`Sound.chain_eq`). Linking
an entry in at the tail appends its slot to `order` (`Sound.insert`), and
taking a chained slot out erases it (`Sound.remove`); both keep the table
sound, and neither touches the entry of any other slot.
-/

namespace HeapKit.Memory

namespace Memlist

/-! ### Sound tables -/

/-- The slot before position `index` of a chain, none at its start. -/
def before? (order : List Nat) (index : Nat) : Option Nat :=
  if index = 0 then none else order[index - 1]?

/-- The table's links follow `order`: the head is its first slot and the tail
its last, and the cell of each of its slots points forward to the slot after
it and back to the slot before it. -/
structure Linked (list : Memlist) (order : List Nat) : Prop where
  head : list.head = order[0]?
  tail : list.tail = order.getLast?
  next : ∀ index (bound : index < order.length),
    list.slots[order[index]]?.map Slot.next = some order[index + 1]?
  prev : ∀ index (bound : index < order.length),
    list.slots[order[index]]?.map Slot.prev = some (before? order index)

/-- A table that holds the slots `order`, oldest first. -/
structure Sound (list : Memlist) (order : List Nat) : Prop where
  linked : list.Linked order
  partition : (order ++ list.freeSlots).Perm (List.range list.slots.size)
  byAddr : ∀ payload slot, list.slotOf? payload = some slot ↔
    slot ∈ order ∧ (list.entryAt? slot).map Entry.payload = some payload

/-- The empty table holds no slot. -/
theorem sound_empty : (({} : Memlist)).Sound [] where
  linked := ⟨rfl, rfl, fun _ bound => absurd bound (Nat.not_lt_zero _),
    fun _ bound => absurd bound (Nat.not_lt_zero _)⟩
  partition := List.Perm.refl _
  byAddr := by simp [slotOf?]

/-- In a chain without repeats, a position names a chained slot exactly when it
is that slot's own position. -/
theorem getElem?_eq_getElem_iff {order : List Nat} (nodup : order.Nodup) {index position : Nat}
    (bound : index < order.length) : order[position]? = some order[index] ↔ position = index := by
  constructor
  · intro found
    rcases Nat.lt_or_ge position order.length with inside | outside
    · rw [List.getElem?_eq_getElem inside, Option.some.injEq] at found
      exact (List.Nodup.getElem_inj_iff nodup).mp found
    · rw [List.getElem?_eq_none outside] at found
      cases found
  · rintro rfl
    exact List.getElem?_eq_getElem bound

theorem getLast?_eq_getElem_iff {order : List Nat} (nodup : order.Nodup) {index : Nat}
    (bound : index < order.length) : order.getLast? = some order[index] ↔ index + 1 = order.length := by
  rw [List.getLast?_eq_getElem?, getElem?_eq_getElem_iff nodup bound]
  omega

theorem before?_eq_getElem_iff {order : List Nat} (nodup : order.Nodup) {index position : Nat}
    (bound : index < order.length) : before? order position = some order[index] ↔ index + 1 = position := by
  unfold before?
  split
  · simp only [reduceCtorEq, false_iff]
    omega
  · rw [getElem?_eq_getElem_iff nodup bound]
    omega

section Sound

variable {list : Memlist} {order : List Nat}

theorem Sound.nodup (sound : list.Sound order) : order.Nodup :=
  (sound.partition.nodup_iff.mpr List.nodup_range).sublist (List.sublist_append_left _ _)

theorem Sound.lt_size (sound : list.Sound order) {slot : Nat} (member : slot ∈ order ++ list.freeSlots) :
    slot < list.slots.size :=
  List.mem_range.mp (sound.partition.subset member)

theorem Sound.length_le (sound : list.Sound order) : order.length ≤ list.slots.size := by
  have total := sound.partition.length_eq
  simp only [List.length_append, List.length_range] at total
  omega

/-- Following `next` from any position of the chain, with enough steps, visits
the rest of the chain. -/
theorem Linked.walk_eq_drop (linked : list.Linked order) :
    ∀ fuel index, order.length ≤ index + fuel → list.walk fuel order[index]? = order.drop index
  | 0, index, enough => by
    rw [List.drop_eq_nil_of_le (by omega)]
    rfl
  | fuel + 1, index, enough => by
    by_cases bound : index < order.length
    · obtain ⟨cell, found, forward⟩ := Option.map_eq_some_iff.mp (linked.next index bound)
      rw [List.getElem?_eq_getElem bound, List.drop_eq_getElem_cons bound, walk, found,
        Option.bind_some, forward, linked.walk_eq_drop fuel (index + 1) (by omega)]
    · rw [List.getElem?_eq_none (by omega), List.drop_eq_nil_of_le (by omega)]
      rfl

/-- The chain of a sound table is its order. -/
theorem Sound.chain_eq (sound : list.Sound order) : list.chain = order := by
  have walked := sound.linked.walk_eq_drop list.slots.size 0 (by simpa using sound.length_le)
  rwa [List.drop_zero, ← sound.linked.head] at walked

theorem Sound.entries_eq (sound : list.Sound order) :
    list.entries = order.filterMap list.entryAt? := by
  rw [entries, sound.chain_eq]

/-- Every chained slot has an entry. -/
theorem Sound.entryAt?_isSome (sound : list.Sound order) {slot : Nat} (member : slot ∈ order) :
    (list.entryAt? slot).isSome := by
  have bound := sound.lt_size (List.mem_append_left _ member)
  simp [entryAt?, bound]

/-- Two chained slots with one payload address are one slot. -/
theorem Sound.slot_eq_of_payload (sound : list.Sound order) {slot other : Nat} {payload : Nat}
    (first : slot ∈ order) (second : other ∈ order)
    (payloadFirst : (list.entryAt? slot).map Entry.payload = some payload)
    (payloadSecond : (list.entryAt? other).map Entry.payload = some payload) : slot = other := by
  have found := (sound.byAddr payload slot).mpr ⟨first, payloadFirst⟩
  rw [(sound.byAddr payload other).mpr ⟨second, payloadSecond⟩] at found
  exact (Option.some.inj found).symm

end Sound

/-! ### Linking in at the tail -/

section Insert

variable (entry : Entry) (list : Memlist)

theorem allocSlot_head : list.allocSlot.2.head = list.head := by
  unfold allocSlot
  split <;> rfl

theorem allocSlot_tail : list.allocSlot.2.tail = list.tail := by
  unfold allocSlot
  split <;> rfl

theorem allocSlot_byAddr : list.allocSlot.2.byAddr = list.byAddr := by
  unfold allocSlot
  split <;> rfl

/-- Taking a slot leaves every other slot's cell as it was. -/
theorem allocSlot_slots_of_ne {other : Nat} (other_ne : other ≠ list.allocSlot.1) :
    list.allocSlot.2.slots[other]? = list.slots[other]? := by
  unfold allocSlot at *
  split at *
  · rfl
  · rw [Array.getElem?_push, if_neg other_ne]

theorem insert_fst : (list.insert entry).1 = list.allocSlot.1 := rfl

theorem insert_head :
    (list.insert entry).2.head = if list.tail = none then some list.allocSlot.1 else list.head := by
  have tail := allocSlot_tail list
  have head := allocSlot_head list
  unfold insert
  rcases taken : list.allocSlot with ⟨slot, alloc⟩
  rw [taken] at tail head
  dsimp only at tail head ⊢
  rw [← tail, ← head]
  cases alloc.tail <;> rfl

theorem insert_tail : (list.insert entry).2.tail = some list.allocSlot.1 := by
  unfold insert
  rcases list.allocSlot with ⟨slot, alloc⟩
  rfl

theorem insert_freeSlots : (list.insert entry).2.freeSlots = list.allocSlot.2.freeSlots := by
  unfold insert
  rcases list.allocSlot with ⟨slot, alloc⟩
  dsimp only
  cases alloc.tail <;> rfl

theorem insert_size : (list.insert entry).2.slots.size = list.allocSlot.2.slots.size := by
  unfold insert
  rcases list.allocSlot with ⟨slot, alloc⟩
  dsimp only
  cases alloc.tail <;> simp [setNext]

theorem insert_byAddr :
    (list.insert entry).2.byAddr = list.byAddr.insert entry.payload list.allocSlot.1 := by
  have byAddr := allocSlot_byAddr list
  unfold insert
  rcases taken : list.allocSlot with ⟨slot, alloc⟩
  rw [taken] at byAddr
  dsimp only at byAddr ⊢
  rw [← byAddr]
  cases alloc.tail <;> rfl

/-- After linking in, the taken slot holds the entry behind the old tail, and
the old tail's cell points forward to it. -/
theorem insert_slots (bound : list.allocSlot.1 < list.allocSlot.2.slots.size) (other : Nat) :
    (list.insert entry).2.slots[other]? =
      (if other = list.allocSlot.1 then some ({ prev := list.tail, next := none, entry } : Slot)
        else list.slots[other]?).map
        fun cell => if list.tail = some other then { cell with next := some list.allocSlot.1 } else cell := by
  have taken : (list.allocSlot.2.slots.set! list.allocSlot.1
      { prev := list.tail, next := none, entry })[other]? =
      if other = list.allocSlot.1 then some ({ prev := list.tail, next := none, entry } : Slot)
      else list.slots[other]? := by
    rw [Array.set!_eq_setIfInBounds, Array.getElem?_setIfInBounds]
    by_cases same : list.allocSlot.1 = other
    · rw [if_pos same, if_pos same.symm, if_pos (same ▸ bound)]
    · rw [if_neg same, if_neg (Ne.symm same), allocSlot_slots_of_ne _ (Ne.symm same)]
  have tail := allocSlot_tail list
  unfold insert
  rcases allocated : list.allocSlot with ⟨slot, alloc⟩
  rw [allocated] at tail taken
  dsimp only at tail taken ⊢
  rw [← tail] at taken ⊢
  cases last : alloc.tail with
  | none => simpa [last] using taken
  | some last' =>
    simp only [setNext, Array.getElem?_modify]
    rw [last] at taken
    by_cases same : last' = other
    · subst same
      rw [if_pos rfl, taken]
      simp
    · rw [if_neg same, taken]
      simp [same]

theorem insert_entryAt? (bound : list.allocSlot.1 < list.allocSlot.2.slots.size) (other : Nat) :
    (list.insert entry).2.entryAt? other =
      if other = list.allocSlot.1 then some entry else list.entryAt? other := by
  simp only [entryAt?, insert_slots entry list bound, Option.map_map]
  split <;> split <;> simp_all [Function.comp_def]

end Insert

/-! ### Taking a slot out -/

section Remove

variable (slot payload : Nat) (list : Memlist)

/-- The cell of a slot, a cleared one when there is none. -/
def cellOf (slot : Nat) (list : Memlist) : Slot := list.slots[slot]?.getD {}

theorem unlink_head :
    (list.unlink slot).head =
      if (list.cellOf slot).prev = none then (list.cellOf slot).next else list.head := by
  unfold unlink cellOf
  dsimp only
  rcases list.slots[slot]?.getD {} with ⟨prev, next, entry⟩
  cases prev <;> cases next <;> rfl

theorem unlink_tail :
    (list.unlink slot).tail =
      if (list.cellOf slot).next = none then (list.cellOf slot).prev else list.tail := by
  unfold unlink cellOf
  dsimp only
  rcases list.slots[slot]?.getD {} with ⟨prev, next, entry⟩
  cases prev <;> cases next <;> rfl

theorem unlink_freeSlots : (list.unlink slot).freeSlots = slot :: list.freeSlots := by
  unfold unlink
  dsimp only
  rcases list.slots[slot]?.getD {} with ⟨prev, next, entry⟩
  cases prev <;> cases next <;> rfl

theorem unlink_size : (list.unlink slot).slots.size = list.slots.size := by
  unfold unlink
  dsimp only
  rcases list.slots[slot]?.getD {} with ⟨prev, next, entry⟩
  cases prev <;> cases next <;> simp [setNext, setPrev]

/-- Unlinking a slot points its neighbours past it and touches no other cell. -/
theorem unlink_slots {other : Nat} (other_ne : other ≠ slot) :
    (list.unlink slot).slots[other]? = list.slots[other]?.map fun cell =>
      { cell with
        next := if (list.cellOf slot).prev = some other then (list.cellOf slot).next else cell.next
        prev := if (list.cellOf slot).next = some other then (list.cellOf slot).prev else cell.prev } := by
  unfold unlink cellOf
  dsimp only
  rcases list.slots[slot]?.getD {} with ⟨prev, next, entry⟩
  rw [Array.set!_eq_setIfInBounds]
  cases prev <;> cases next <;>
    simp [setNext, setPrev, Array.getElem?_modify, Ne.symm other_ne] <;>
    split_ifs <;> simp_all [Function.comp_def]

theorem remove_byAddr : (list.remove slot payload).byAddr = list.byAddr.erase payload := by
  unfold remove unlink
  dsimp only
  rcases list.slots[slot]?.getD {} with ⟨prev, next, entry⟩
  cases prev <;> cases next <;> rfl

theorem remove_entryAt? {other : Nat} (other_ne : other ≠ slot) :
    (list.remove slot payload).entryAt? other = list.entryAt? other := by
  have unchanged : (list.remove slot payload).slots = (list.unlink slot).slots := rfl
  simp only [entryAt?, unchanged, unlink_slots slot list other_ne, Option.map_map]
  rfl

end Remove

/-! ### Soundness of linking in and taking out -/

section Changes

variable {list : Memlist} {order : List Nat} {slot payload : Nat}

/-- The slot taken for a new entry is free: it is not chained and lies in the
table, and the chain, the taken slot and the rest of the free stack still
number every slot once. -/
theorem Sound.allocSlot (sound : list.Sound order) :
    list.allocSlot.1 ∉ order ∧ list.allocSlot.1 < list.allocSlot.2.slots.size ∧
      (order ++ list.allocSlot.1 :: list.allocSlot.2.freeSlots).Perm
        (List.range list.allocSlot.2.slots.size) := by
  have partition := sound.partition
  have nodup := partition.nodup_iff.mpr List.nodup_range
  unfold Memlist.allocSlot
  cases free : list.freeSlots with
  | cons slot rest =>
    rw [free] at partition nodup
    refine ⟨fun member => ?_, sound.lt_size (by simp [free]), partition⟩
    exact (List.nodup_append.mp nodup).2.2 slot member slot List.mem_cons_self rfl
  | nil =>
    rw [free, List.append_nil] at partition
    refine ⟨fun member => Nat.lt_irrefl _ (sound.lt_size (List.mem_append_left _ member)),
      by simp, ?_⟩
    rw [Array.size_push, List.range_succ]
    exact partition.append_right [list.slots.size]

/-- Linking an entry in at the tail appends its slot to the chain; the entry's
address must not be tracked yet. -/
theorem Sound.insert (entry : Entry) (sound : list.Sound order)
    (fresh : list.slotOf? entry.payload = none) :
    (list.insert entry).2.Sound (order ++ [list.allocSlot.1]) := by
  obtain ⟨notMember, bound, partition⟩ := sound.allocSlot
  have nodup := sound.nodup
  have linked := sound.linked
  constructor
  · constructor
    · rw [insert_head, linked.tail, linked.head]
      cases order with
      | nil => rfl
      | cons first rest => simp
    · rw [insert_tail]
      simp
    · intro index inside
      rw [insert_slots entry list bound]
      rcases Nat.lt_or_ge index order.length with old | last
      · have other : order[index] ≠ list.allocSlot.1 :=
          fun same => notMember (same ▸ List.getElem_mem old)
        simp only [List.getElem_append_left old, if_neg other, Option.map_map]
        obtain ⟨cell, found, forward⟩ := Option.map_eq_some_iff.mp (linked.next index old)
        rw [found, linked.tail]
        by_cases final : index + 1 = order.length
        · simp [(getLast?_eq_getElem_iff nodup old).mpr final, final]
        · have notLast : order.getLast? ≠ some order[index] :=
            fun atTail => final ((getLast?_eq_getElem_iff nodup old).mp atTail)
          simp [notLast, forward, List.getElem?_append_left (by omega : index + 1 < order.length)]
      · have atEnd : index = order.length := by simp at inside; omega
        subst atEnd
        have notTail : list.tail ≠ some list.allocSlot.1 := by
          rw [linked.tail]
          intro atTail
          exact notMember (List.mem_of_getLast? atTail)
        simp [notTail]
    · intro index inside
      rw [insert_slots entry list bound]
      rcases Nat.lt_or_ge index order.length with old | last
      · have other : order[index] ≠ list.allocSlot.1 :=
          fun same => notMember (same ▸ List.getElem_mem old)
        simp only [List.getElem_append_left old, if_neg other, Option.map_map]
        obtain ⟨cell, found, backward⟩ := Option.map_eq_some_iff.mp (linked.prev index old)
        rw [found]
        have same : before? (order ++ [list.allocSlot.1]) index = before? order index := by
          unfold before?
          split
          · rfl
          · exact List.getElem?_append_left (by omega)
        split <;> simp [backward, same]
      · have atEnd : index = order.length := by simp at inside; omega
        subst atEnd
        have notTail : list.tail ≠ some list.allocSlot.1 := by
          rw [linked.tail]
          intro atTail
          exact notMember (List.mem_of_getLast? atTail)
        simp only [List.getElem_concat_length, if_pos, Option.map_some, if_neg notTail]
        rw [linked.tail, before?]
        split
        · simp_all
        · rw [List.getElem?_append_left (by omega), List.getLast?_eq_getElem?]
  · rw [insert_freeSlots, insert_size, List.append_assoc]
    exact partition
  · intro payload slot
    rw [slotOf?, insert_byAddr, Std.HashMap.getElem?_insert, insert_entryAt? entry list bound,
      List.mem_append, List.mem_singleton]
    by_cases same : entry.payload = payload
    · subst same
      simp only [beq_self_eq_true, if_true, Option.some.injEq]
      constructor
      · rintro rfl
        simp
      · rintro ⟨member, found⟩
        split at found
        · rename_i taken
          exact taken.symm
        · rcases member with member | member
          · have tracked := (sound.byAddr entry.payload slot).mpr ⟨member, found⟩
            rw [fresh] at tracked
            cases tracked
          · contradiction
    · rw [if_neg (by simpa using same)]
      rw [← slotOf?, sound.byAddr]
      constructor
      · rintro ⟨member, found⟩
        refine ⟨.inl member, ?_⟩
        rwa [if_neg (fun (taken : slot = list.allocSlot.1) => notMember (taken ▸ member))]
      · rintro ⟨member | member, found⟩
        · rw [if_neg (fun (taken : slot = list.allocSlot.1) => notMember (taken ▸ member))] at found
          exact ⟨member, found⟩
        · rw [if_pos member] at found
          exact absurd (Option.some.inj found) same

/-- Unlinking the slot at a position of the chain leaves the chain without that
position. -/
theorem Linked.unlink (linked : list.Linked order) (nodup : order.Nodup)
    {position : Nat} (inside : position < order.length) :
    (list.unlink order[position]).Linked (order.eraseIdx position) := by
  obtain ⟨cell, found, forward⟩ := Option.map_eq_some_iff.mp (linked.next position inside)
  have backward : cell.prev = before? order position := by
    have prev := linked.prev position inside
    rwa [found, Option.map_some, Option.some.injEq] at prev
  have cellIs : list.cellOf order[position] = cell := by simp [cellOf, found]
  have length : (order.eraseIdx position).length = order.length - 1 :=
    List.length_eraseIdx_of_lt inside
  have distinct : ∀ index (bound : index < order.length), index ≠ position → order[index] ≠ order[position] :=
    fun index bound differ same => differ ((List.Nodup.getElem_inj_iff nodup).mp same)
  constructor
  · rw [unlink_head, cellIs, backward, forward, linked.head, List.getElem?_eraseIdx]
    unfold before?
    by_cases first : position = 0
    · simp [first]
    · rw [if_neg first, List.getElem?_eq_getElem (by omega : position - 1 < order.length)]
      simp [Nat.pos_of_ne_zero first]
  · rw [unlink_tail, cellIs, forward, backward, linked.tail, List.getLast?_eq_getElem?,
      List.getLast?_eq_getElem?, length, List.getElem?_eraseIdx]
    unfold before?
    by_cases final : position + 1 = order.length
    · rw [List.getElem?_eq_none (by omega : order.length ≤ position + 1), if_pos rfl]
      split
      · rw [if_neg (by omega), List.getElem?_eq_none (by omega)]
      · rw [if_pos (by omega)]
        congr 1
        omega
    · rw [List.getElem?_eq_getElem (by omega : position + 1 < order.length)]
      simp only [reduceCtorEq, if_false]
      rw [if_neg (by omega)]
      congr 1
      omega
  · intro index bound
    rcases Nat.lt_or_ge index position with early | late
    · rw [List.getElem_eraseIdx_of_lt bound early,
        unlink_slots _ _ (distinct index (by omega) (by omega)), cellIs, backward]
      obtain ⟨other, otherFound, otherForward⟩ :=
        Option.map_eq_some_iff.mp (linked.next index (by omega))
      simp only [otherFound, Option.map_some, List.getElem?_eraseIdx]
      by_cases adjacent : index + 1 = position
      · rw [if_pos ((before?_eq_getElem_iff nodup (by omega)).mpr adjacent), forward,
          if_neg (by omega)]
        congr 2
        omega
      · rw [if_neg (fun atPrev => adjacent ((before?_eq_getElem_iff nodup (by omega)).mp atPrev)),
          otherForward, if_pos (by omega)]
    · rw [List.getElem_eraseIdx_of_ge bound late,
        unlink_slots _ _ (distinct (index + 1) (by omega) (by omega)), cellIs, backward]
      obtain ⟨other, otherFound, otherForward⟩ :=
        Option.map_eq_some_iff.mp (linked.next (index + 1) (by omega))
      simp only [otherFound, Option.map_some, List.getElem?_eraseIdx]
      rw [if_neg (fun atPrev => by
          have := (before?_eq_getElem_iff nodup (by omega)).mp atPrev
          omega),
        otherForward, if_neg (by omega)]
  · intro index bound
    rcases Nat.lt_or_ge index position with early | late
    · rw [List.getElem_eraseIdx_of_lt bound early,
        unlink_slots _ _ (distinct index (by omega) (by omega)), cellIs, forward]
      obtain ⟨other, otherFound, otherBackward⟩ :=
        Option.map_eq_some_iff.mp (linked.prev index (by omega))
      simp only [otherFound, Option.map_some]
      rw [if_neg (fun atNext => by
          have := (getElem?_eq_getElem_iff nodup (by omega)).mp atNext
          omega),
        otherBackward]
      unfold before?
      split
      · rfl
      · rw [List.getElem?_eraseIdx, if_pos (by omega)]
    · rw [List.getElem_eraseIdx_of_ge bound late,
        unlink_slots _ _ (distinct (index + 1) (by omega) (by omega)), cellIs, forward]
      obtain ⟨other, otherFound, otherBackward⟩ :=
        Option.map_eq_some_iff.mp (linked.prev (index + 1) (by omega))
      simp only [otherFound, Option.map_some]
      by_cases adjacent : index = position
      · subst adjacent
        rw [if_pos ((getElem?_eq_getElem_iff nodup (by omega)).mpr rfl), backward]
        unfold before?
        split
        · rfl
        · rw [List.getElem?_eraseIdx, if_pos (by omega)]
      · rw [if_neg (fun atNext => adjacent (by
            have := (getElem?_eq_getElem_iff nodup (by omega)).mp atNext
            omega)),
          otherBackward]
        unfold before?
        rw [if_neg (by omega), if_neg (by omega), List.getElem?_eraseIdx, if_neg (by omega),
          show index + 1 - 1 = index - 1 + 1 by omega]

/-- Taking out the slot of a tracked address erases the slot from the chain and
pushes it on the free stack. -/
theorem Sound.remove (sound : list.Sound order)
    (found : list.slotOf? payload = some slot) :
    (list.remove slot payload).Sound (order.erase slot) := by
  obtain ⟨member, payloadOf⟩ := (sound.byAddr payload slot).mp found
  obtain ⟨position, inside, atPosition⟩ := List.getElem_of_mem member
  have nodup := sound.nodup
  have erased : order.erase slot = order.eraseIdx position :=
    atPosition ▸ List.Nodup.erase_getElem nodup position inside
  have untracked : ∀ {other}, other ∈ order.erase slot → other ≠ slot :=
    fun kept same => List.Nodup.not_mem_erase nodup (same ▸ kept)
  constructor
  · have linked := sound.linked.unlink nodup inside
    rw [atPosition] at linked
    rw [erased]
    exact ⟨linked.head, linked.tail, linked.next, linked.prev⟩
  · show (order.erase slot ++ (list.unlink slot).freeSlots).Perm
      (List.range (list.unlink slot).slots.size)
    rw [unlink_freeSlots, unlink_size]
    exact List.perm_middle.trans
      (((List.perm_cons_erase member).symm.append_right _).trans sound.partition)
  · intro address other
    rw [slotOf?, remove_byAddr, Std.HashMap.getElem?_erase]
    by_cases same : payload = address
    · subst same
      simp only [beq_self_eq_true, if_true, reduceCtorEq, false_iff]
      rintro ⟨kept, otherPayload⟩
      rw [remove_entryAt? _ _ _ (untracked kept)] at otherPayload
      exact untracked kept (sound.slot_eq_of_payload ((List.mem_erase_of_ne (untracked kept)).mp kept)
        member otherPayload payloadOf)
    · rw [if_neg (by simpa using same), ← slotOf?, sound.byAddr]
      constructor
      · rintro ⟨kept, otherPayload⟩
        have otherNe : other ≠ slot := by
          rintro rfl
          rw [payloadOf] at otherPayload
          exact same (Option.some.inj otherPayload)
        exact ⟨(List.mem_erase_of_ne otherNe).mpr kept, by rwa [remove_entryAt? _ _ _ otherNe]⟩
      · rintro ⟨kept, otherPayload⟩
        rw [remove_entryAt? _ _ _ (untracked kept)] at otherPayload
        exact ⟨(List.mem_erase_of_ne (untracked kept)).mp kept, otherPayload⟩

end Changes

end Memlist

end HeapKit.Memory
