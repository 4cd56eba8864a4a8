import Mathlib
import HeapKit.Proofs.Container.Mutation
import HeapKit.Proofs.HashMap.AssocList
import HeapKit.Proofs.HashMap.Sizing

namespace HeapKit

namespace HashMap

variable {κ ν σ : Type}

/-- What every operation keeps of a map: a table of `2 ^ bits` slots (or none) that is sound,
counters that count its filled slots and its tombstones, and a usable count between the filled
slots and the table size. -/
structure WellFormed (map : HashMap κ ν) : Prop where
  shaped : Shaped map.slots map.mask
  sound : TableSound map.hasher map.probing map.slots map.mask
  filled : filledCount map.slots = map.occupiedAndRemoved
  tombstones : tombstoneCount map.slots = map.removed
  filled_le_usable : (map.occupiedAndRemoved : ℤ) ≤ map.usable.toInt
  usable_le_size : map.usable.toInt ≤ map.slots.size

theorem WellFormed.length_entries {map : HashMap κ ν} (wellFormed : map.WellFormed) :
    map.entries.length = map.size := by
  have counted := length_entriesOf_add_tombstoneCount map.slots
  rw [wellFormed.filled, wellFormed.tombstones] at counted
  rw [entries_eq_entriesOf, size]
  omega

theorem wellFormed_empty (hasher : Hasher κ) (probing : Probing) (loadFactor : LoadFactor)
    (slotSize : Nat) (accounted : Bool) :
    (empty hasher probing loadFactor slotSize accounted : HashMap κ ν).WellFormed where
  shaped := Or.inl ⟨0, by decide, rfl, rfl⟩
  sound := tableSound_replicate 1
  filled := filledCount_replicate 1
  tombstones := tombstoneCount_replicate 1
  filled_le_usable := by simp [empty]
  usable_le_size := by simp [empty]

/-! ### Rebuilding the table -/

/-- The map after a successful rebuild for `minUsable` entries, with `storage` as its table's
storage. -/
def rebuild (map : HashMap κ ν) (minUsable : Int64) (storage : Option Nat) : HashMap κ ν :=
  let (total, usable) := map.loadFactor.slots (Int64.ofNat map.inlineSlots) minUsable
  let mask := (total - 1).toUInt64
  { map with slots := map.placeAll mask (Array.replicate total.toInt.toNat .empty) map.entries,
             storage, usable, removed := 0, occupiedAndRemoved := map.size, mask }

theorem returns_releaseTable (provider : Provider σ) (map : HashMap κ ν) :
    Mutation.Returns (releaseTable provider) map fun _ next => next = { map with storage := none } := by
  unfold releaseTable
  apply Mutation.Returns.container_bind
  dsimp only
  split
  · apply (Mutation.returns_giveBack provider _ _).bind
    rintro _ _ rfl
    exact Mutation.returns_setContainer _
  · exact Mutation.returns_setContainer _

/-- A rebuild either is refused its storage and leaves the map as it was, or ends in `rebuild`. -/
theorem rehash_ends (provider : Provider σ) (minUsable : Int64) (map : HashMap κ ν) :
    Mutation.Ends (rehash provider minUsable) map
      fun _ next => ∃ storage, next = map.rebuild minUsable storage := by
  unfold rehash rebuild
  apply Mutation.Ends.container_bind
  rcases map.loadFactor.slots (Int64.ofNat map.inlineSlots) minUsable with ⟨total, usable⟩
  dsimp only
  -- storage is obtained first, and only a refusal there fails
  refine Mutation.Ends.ite_bind (Mutation.Ends.ite
    (fun _ => (Mutation.ends_obtain provider _ _ _).map fun _ _ => id)
    (fun _ => ((Mutation.returns_pure none).mono fun _ _ => And.right).ends)) ?_
  intro storage next unchanged
  rw [unchanged]
  apply Mutation.Returns.bind (returns_releaseTable provider map)
  intro _ released releasedEq
  rw [releasedEq]
  exact (Mutation.returns_modifyContainer _).mono fun _ _ changed => ⟨storage, changed⟩

/-- The inline slot count is four or none: zero or a power of two. -/
theorem inlineSlots_cases (map : HashMap κ ν) :
    (Int64.ofNat map.inlineSlots).toInt = 0 ∨ ∃ bits : ℕ, (Int64.ofNat map.inlineSlots).toInt = 2 ^ bits := by
  unfold inlineSlots inlineCapacity
  split
  · exact Or.inr ⟨2, by decide⟩
  · exact Or.inl (by decide)

/-- The mask of a table of `2 ^ bits` slots. -/
theorem toNat_toUInt64_sub_one {total : Int64} {bits : ℕ} (small : bits < 63)
    (power : total.toInt = 2 ^ bits) : (total - 1).toUInt64.toNat = 2 ^ bits - 1 := by
  have atLeastOne : (1 : ℤ) ≤ 2 ^ bits := one_le_pow₀ (by norm_num)
  have belowWord : (2 : ℤ) ^ bits < 2 ^ 63 := pow_lt_pow_right₀ (by norm_num) small
  have decremented : (total - 1).toInt = 2 ^ bits - 1 := by
    rw [Int64.toInt_sub, power, show (1 : Int64).toInt = 1 from rfl]
    exact LoadFactor.toInt_of_inWord ⟨by omega, by omega⟩
  have nonnegative : 0 ≤ total - 1 := by
    rw [Int64.le_iff_toInt_le, decremented, Int64.toInt_zero]
    omega
  rw [Int64.toNat_toUInt64_of_le nonnegative, ← Int64.toNat_toInt, decremented]
  have cast : ((2 ^ bits : ℕ) : ℤ) = 2 ^ bits := by push_cast; rfl
  omega

/-- A rebuild for more entries than the map holds, whose sizing stays within a word, is well
formed and holds the same entries. -/
theorem WellFormed.rebuild {map : HashMap κ ν} (wellFormed : map.WellFormed)
    (lawful : map.hasher.Lawful) (valid : map.loadFactor.isValid) {minUsable : Int64}
    (fit : map.loadFactor.SlotsFit (Int64.ofNat map.inlineSlots) minUsable)
    (enough : (map.size : ℤ) < minUsable.toInt) (storage : Option Nat) :
    (map.rebuild minUsable storage).WellFormed ∧
      (map.rebuild minUsable storage).entries.Perm map.entries := by
  obtain ⟨⟨bits, small, power⟩, -, usableLarge, usableSmall⟩ :=
    LoadFactor.slots_spec map.loadFactor valid (inlineSlots_cases map) (by omega) fit
  unfold HashMap.rebuild
  rcases slotsEq : map.loadFactor.slots (Int64.ofNat map.inlineSlots) minUsable with
    ⟨total, usable⟩
  rw [slotsEq] at power usableLarge usableSmall
  dsimp only at power usableLarge usableSmall ⊢
  have count : total.toInt.toNat = 2 ^ bits := by
    rw [power]
    exact Int.toNat_pow_of_nonneg (by norm_num) bits
  have shaped : Shaped (Array.replicate total.toInt.toNat (Slot.empty : Slot κ ν))
      (total - 1).toUInt64 :=
    Or.inl ⟨bits, small, by rw [Array.size_replicate, count], toNat_toUInt64_sub_one small power⟩
  have counted := wellFormed.length_entries
  have room : filledCount (Array.replicate total.toInt.toNat (Slot.empty : Slot κ ν)) +
      map.entries.length < (Array.replicate total.toInt.toNat (Slot.empty : Slot κ ν)).size := by
    rw [filledCount_replicate, Array.size_replicate, counted]
    omega
  have distinct := wellFormed.sound.pairwise_entriesOf
  rw [← entries_eq_entriesOf] at distinct
  obtain ⟨sound, placed, filled, tombstones, sized⟩ := placeAll_spec map lawful shaped
    (tableSound_replicate _) distinct (fun _ _ _ _ _ atSlot => absurd atSlot replicate_empty_ne_occupied)
    room
  refine ⟨⟨?_, sound, ?_, ?_, ?_, ?_⟩, ?_⟩
  · rw [Shaped, sized]
    exact shaped
  · rw [filled, filledCount_replicate, counted, Nat.zero_add]
  · rw [tombstones, tombstoneCount_replicate]
  · show (map.size : ℤ) ≤ usable.toInt
    omega
  · show usable.toInt ≤ ((map.placeAll _ _ map.entries).size : ℤ)
    have cast : ((2 ^ bits : ℕ) : ℤ) = 2 ^ bits := by push_cast; rfl
    rw [sized, Array.size_replicate, count, cast, ← power]
    exact usableSmall.le
  · simp only [entries_eq_entriesOf] at placed ⊢
    simpa using placed

theorem Shaped.size_le {slots : Array (Slot κ ν)} {mask : UInt64} (shaped : Shaped slots mask) :
    slots.size ≤ 2 ^ 62 := by
  rcases shaped with ⟨bits, small, sized, -⟩ | ⟨empty, -⟩
  · rw [sized]
    exact Nat.pow_le_pow_right (by norm_num) (by omega)
  · omega

/-- One more than the entries of a well-formed map is a word: the table has at most `2 ^ 62`
slots. -/
theorem WellFormed.toInt_ofNat_size_succ {map : HashMap κ ν} (wellFormed : map.WellFormed) :
    (Int64.ofNat (map.size + 1)).toInt = map.size + 1 := by
  have fewer : map.entries.length ≤ map.slots.size := by
    rw [entries_eq_entriesOf, entriesOf, ← Array.length_toList]
    exact List.length_filterMap_le _ _
  have bounded := wellFormed.shaped.size_le
  rw [wellFormed.length_entries] at fewer
  exact_mod_cast Int64.toInt_ofNat_of_lt (by omega)

/-- Two maps with the same hasher, probing, load factor and slot size. -/
def SameSetup (map next : HashMap κ ν) : Prop :=
  next.hasher = map.hasher ∧ next.probing = map.probing ∧ next.loadFactor = map.loadFactor ∧
    next.slotSize = map.slotSize

theorem SameSetup.refl (map : HashMap κ ν) : SameSetup map map := ⟨rfl, rfl, rfl, rfl⟩

theorem SameSetup.trans {map middle next : HashMap κ ν} (first : SameSetup map middle)
    (second : SameSetup middle next) : SameSetup map next :=
  ⟨second.1.trans first.1, second.2.1.trans first.2.1, second.2.2.1.trans first.2.2.1,
    second.2.2.2.trans first.2.2.2⟩

/-- The sizing of the rebuild that an insertion into `map` may start stays within a word. -/
def GrowthFits (map : HashMap κ ν) : Prop :=
  map.usable.toInt ≤ map.occupiedAndRemoved →
    map.loadFactor.SlotsFit (Int64.ofNat map.inlineSlots) (Int64.ofNat (map.size + 1))

/-- `next` holds the entries of `map` in a well-formed table under the same setup, with room for
one more entry below the usable count. -/
structure Roomy (map next : HashMap κ ν) : Prop where
  wellFormed : next.WellFormed
  setup : SameSetup map next
  entries : next.entries.Perm map.entries
  room : (next.occupiedAndRemoved : ℤ) < next.usable.toInt

/-- Making room for an insertion either fails with the map unchanged or leaves a well-formed map
with the same entries and room for one more. -/
theorem ensureRoom_ends (provider : Provider σ) {map : HashMap κ ν} (wellFormed : map.WellFormed)
    (lawful : map.hasher.Lawful) (valid : map.loadFactor.isValid) (fits : map.GrowthFits) :
    Mutation.Ends (ensureRoom provider) map fun _ next => Roomy map next := by
  unfold ensureRoom
  apply Mutation.Ends.container_bind
  have exact := wellFormed.toInt_ofNat_size_succ
  split
  · rename_i full
    refine (rehash_ends provider _ map).mono ?_
    rintro _ _ ⟨storage, rfl⟩
    obtain ⟨rebuilt, kept⟩ := wellFormed.rebuild lawful valid (fits full) (by omega) storage
    refine ⟨rebuilt, SameSetup.refl map, kept, ?_⟩
    have usable := (LoadFactor.slots_spec map.loadFactor valid (inlineSlots_cases map) (by omega)
      (fits full)).2.2.1
    show (map.size : ℤ) < (map.loadFactor.slots _ _).2.toInt
    omega
  · rename_i roomy
    exact Mutation.Returns.ends
      (Mutation.returns_pure_of ⟨wellFormed, SameSetup.refl _, List.Perm.refl _, by omega⟩)

/-! ### Entries of a well-formed map -/

theorem valueAt?_eq_some {map : HashMap κ ν} {index : Nat} {stored : κ} {value : ν}
    (atIndex : map.slots[index]? = some (.occupied stored value)) :
    map.valueAt? index = some value := by
  rw [valueAt?, atIndex]

section Entries

variable {map : HashMap κ ν} {key : κ}

theorem WellFormed.distinct (wellFormed : map.WellFormed) :
    AssocList.Distinct map.hasher.equal map.entries := by
  rw [entries_eq_entriesOf]
  exact wellFormed.sound.pairwise_entriesOf

/-- No stored key is equal to `key` exactly when the entries have no value for it. -/
theorem absent_iff_lookup_eq_none :
    (∀ {index : Nat} {stored : κ} {value : ν},
      map.slots[index]? = some (Slot.occupied stored value) → map.hasher.equal stored key = false) ↔
      AssocList.lookup map.hasher.equal map.entries key = none := by
  rw [AssocList.lookup_eq_none_iff, entries_eq_entriesOf]
  constructor
  · rintro absent ⟨stored, value⟩ member
    obtain ⟨index, found⟩ := mem_entriesOf.mp member
    exact absent found
  · intro absent index stored value found
    exact absent (stored, value) (mem_entriesOf.mpr ⟨index, found⟩)

theorem exists_slot_of_lookup_eq_some {value : ν}
    (found : AssocList.lookup map.hasher.equal map.entries key = some value) :
    ∃ (index : Nat) (stored : κ), map.slots[index]? = some (.occupied stored value) ∧
      map.hasher.equal stored key = true := by
  obtain ⟨stored, member, equal⟩ := AssocList.exists_of_lookup_eq_some found
  rw [entries_eq_entriesOf] at member
  obtain ⟨index, atIndex⟩ := mem_entriesOf.mp member
  exact ⟨index, stored, atIndex, equal⟩

/-- A key that no stored key is equal to is not found. -/
theorem find?_eq_none (absent : AssocList.lookup map.hasher.equal map.entries key = none) :
    map.find? key = none := by
  unfold find?
  split
  · rfl
  · rw [locate_of_absent (absent_iff_lookup_eq_none.mpr absent)]
    cases (probes map.probing (map.hasher.hash key) map.slots map.mask).find? (emptyAt map.slots) <;>
      rfl

variable (wellFormed : map.WellFormed) (lawful : map.hasher.Lawful)
include wellFormed lawful

theorem WellFormed.lookup_eq_some {index : Nat} {stored : κ} {value : ν}
    (atIndex : map.slots[index]? = some (.occupied stored value))
    (equal : map.hasher.equal stored key = true) :
    AssocList.lookup map.hasher.equal map.entries key = some value := by
  refine AssocList.lookup_eq_some_of_mem lawful wellFormed.distinct ?_ equal
  rw [entries_eq_entriesOf]
  exact mem_entriesOf.mpr ⟨index, atIndex⟩

theorem WellFormed.find?_eq_some {index : Nat} {stored : κ} {value : ν}
    (atIndex : map.slots[index]? = some (.occupied stored value))
    (equal : map.hasher.equal stored key = true) : map.find? key = some index := by
  have positive : map.size ≠ 0 := by
    rw [← wellFormed.length_entries, entries_eq_entriesOf]
    exact List.length_pos_iff.mpr (List.ne_nil_of_mem (mem_entriesOf.mpr ⟨index, atIndex⟩)) |>.ne'
  unfold find?
  rw [if_neg (by simpa using positive), locate_of_equal wellFormed.sound lawful atIndex equal]

/-- A lookup in a well-formed map answers as its entries do. -/
theorem WellFormed.get?_eq (key : κ) :
    map.get? key = AssocList.lookup map.hasher.equal map.entries key := by
  cases found : AssocList.lookup map.hasher.equal map.entries key with
  | none =>
    rw [get?, find?_eq_none found]
    rfl
  | some value =>
    obtain ⟨index, stored, atIndex, equal⟩ := exists_slot_of_lookup_eq_some found
    rw [get?, wellFormed.find?_eq_some lawful atIndex equal]
    show map.valueAt? index = some value
    rw [valueAt?, atIndex]

/-- A well-formed map contains exactly the keys its entries have a value for. -/
theorem WellFormed.contains_eq (key : κ) :
    map.contains key = (AssocList.lookup map.hasher.equal map.entries key).isSome := by
  cases found : AssocList.lookup map.hasher.equal map.entries key with
  | none => rw [contains, find?_eq_none found]; rfl
  | some value =>
    obtain ⟨index, stored, atIndex, equal⟩ := exists_slot_of_lookup_eq_some found
    rw [contains, wellFormed.find?_eq_some lawful atIndex equal]
    rfl

/-- Replacing the value of the entry whose key is equal to `key` keeps the map well formed and
updates its entries. -/
theorem WellFormed.replaceValue {index : Nat} {stored : κ} {old : ν}
    (atIndex : map.slots[index]? = some (.occupied stored old))
    (equal : map.hasher.equal stored key = true) (change : ν → ν) :
    ({ map with slots := map.slots.setIfInBounds index (.occupied stored (change old)) } :
        HashMap κ ν).WellFormed ∧
      ({ map with slots := map.slots.setIfInBounds index (.occupied stored (change old)) } :
        HashMap κ ν).entries = AssocList.update map.hasher.equal map.entries key change := by
  have counted := countP_setIfInBounds Slot.isFilled (.occupied stored (change old)) atIndex
  have tombstones := countP_setIfInBounds Slot.isRemoved (.occupied stored (change old)) atIndex
  simp only [Slot.isFilled, Slot.isRemoved] at counted tombstones
  obtain ⟨front, back, before, after⟩ := entriesOf_setIfInBounds (.occupied stored (change old)) atIndex
  have distinct := wellFormed.distinct
  rw [entries_eq_entriesOf, before] at distinct
  simp only [Slot.occupant?_occupied, Option.toList_some, List.append_assoc, List.singleton_append]
    at distinct after
  refine ⟨⟨shaped_setIfInBounds.mpr wellFormed.shaped, wellFormed.sound.replaceValue atIndex, ?_, ?_,
    wellFormed.filled_le_usable, ?_⟩, ?_⟩
  · rw [← wellFormed.filled]
    unfold filledCount
    simpa using counted
  · rw [← wellFormed.tombstones]
    unfold tombstoneCount
    simpa using tombstones
  · simpa using wellFormed.usable_le_size
  · rw [entries_eq_entriesOf, after, entries_eq_entriesOf, before]
    simp only [Slot.occupant?_occupied, Option.toList_some, List.append_assoc, List.singleton_append]
    rw [AssocList.update_around lawful distinct equal]

/-- Leaving a tombstone in the slot of the entry whose key is equal to `key` keeps the map well
formed and erases that entry. -/
theorem WellFormed.tombstone {index : Nat} {stored : κ} {old : ν}
    (atIndex : map.slots[index]? = some (.occupied stored old))
    (equal : map.hasher.equal stored key = true) :
    ({ map with slots := map.slots.setIfInBounds index .removed, removed := map.removed + 1 } :
        HashMap κ ν).WellFormed ∧
      ({ map with slots := map.slots.setIfInBounds index .removed, removed := map.removed + 1 } :
        HashMap κ ν).entries = AssocList.erase map.hasher.equal map.entries key := by
  obtain ⟨front, back, before, after⟩ := entriesOf_setIfInBounds .removed atIndex
  have distinct := wellFormed.distinct
  rw [entries_eq_entriesOf, before] at distinct
  simp only [Slot.occupant?_occupied, Option.toList_some, List.append_assoc, List.singleton_append]
    at distinct
  refine ⟨⟨shaped_setIfInBounds.mpr wellFormed.shaped, wellFormed.sound.tombstone atIndex, ?_, ?_,
    wellFormed.filled_le_usable, ?_⟩, ?_⟩
  · rw [← wellFormed.filled]
    exact filledCount_tombstone atIndex
  · rw [← wellFormed.tombstones]
    exact tombstoneCount_tombstone atIndex
  · simpa using wellFormed.usable_le_size
  · rw [entries_eq_entriesOf, after, entries_eq_entriesOf, before]
    simp only [Slot.occupant?_occupied, Slot.occupant?_removed, Option.toList_some,
      Option.toList_none, List.append_nil, List.append_assoc, List.singleton_append]
    rw [AssocList.erase_around lawful distinct equal]

omit lawful in
/-- With room below the usable count, the walk for a key that no stored key is equal to stops at
the first empty slot of its sequence. -/
theorem WellFormed.locate_of_lookup_eq_none
    (room : (map.occupiedAndRemoved : ℤ) < map.usable.toInt)
    (absent : AssocList.lookup map.hasher.equal map.entries key = none) :
    ∃ index, (probes map.probing (map.hasher.hash key) map.slots map.mask).find?
        (emptyAt map.slots) = some index ∧ map.locate key = some (index, false) := by
  have fewer : filledCount map.slots < map.slots.size := by
    have := wellFormed.usable_le_size
    rw [← wellFormed.filled] at room
    omega
  obtain ⟨empty, isEmpty⟩ := exists_empty_of_filledCount_lt fewer
  obtain ⟨index, first⟩ := Option.isSome_iff_exists.mp
    (find?_emptyAt_isSome map.probing (map.hasher.hash key) wellFormed.shaped isEmpty)
  refine ⟨index, first, ?_⟩
  rw [locate_of_absent (absent_iff_lookup_eq_none.mpr absent), first]
  rfl

/-- Filling the first empty slot of a new key's sequence keeps the map well formed, with room,
and appends the entry. -/
theorem WellFormed.occupy (value : ν) {index : Nat}
    (first : (probes map.probing (map.hasher.hash key) map.slots map.mask).find?
      (emptyAt map.slots) = some index)
    (absent : AssocList.lookup map.hasher.equal map.entries key = none)
    (room : (map.occupiedAndRemoved : ℤ) < map.usable.toInt) :
    ({ map with
        slots := map.slots.setIfInBounds index (.occupied key value)
        occupiedAndRemoved := map.occupiedAndRemoved + 1 } : HashMap κ ν).WellFormed ∧
      ({ map with
          slots := map.slots.setIfInBounds index (.occupied key value)
          occupiedAndRemoved := map.occupiedAndRemoved + 1 } : HashMap κ ν).entries.Perm
        (map.entries ++ [(key, value)]) ∧
      (map.slots.setIfInBounds index (.occupied key value))[index]? =
        some (.occupied key value) := by
  have wasEmpty := emptyAt_of_find? first
  obtain ⟨bound, -⟩ := Array.getElem?_eq_some_iff.mp wasEmpty
  refine ⟨⟨shaped_setIfInBounds.mpr wellFormed.shaped,
    wellFormed.sound.occupy lawful first (absent_iff_lookup_eq_none.mpr absent), ?_, ?_, ?_, ?_⟩,
    ?_, by simp [bound]⟩
  · rw [← wellFormed.filled]
    exact filledCount_occupy wasEmpty
  · rw [← wellFormed.tombstones]
    exact tombstoneCount_occupy wasEmpty
  · push_cast
    omega
  · simpa using wellFormed.usable_le_size
  · rw [entries_eq_entriesOf, entries_eq_entriesOf]
    exact (entriesOf_occupy wasEmpty).trans (List.perm_append_singleton _ _).symm

end Entries

end HashMap

end HeapKit
