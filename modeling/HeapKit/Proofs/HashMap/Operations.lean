import Mathlib
import HeapKit.Proofs.HashMap.WellFormed

/-!
# Map operations against association lists

One lemma for each operation of a map: run on a well-formed map, it fails only while obtaining
storage for a rebuild, and then leaves the map as it was; otherwise it leaves a well-formed map
under the same setup, answers as the matching operation on the map's entries does, and leaves
entries that are a permutation of that operation's result. Insertions first make room
(`slotFor_ends`); a key then either has its slot or gets the first empty slot of its sequence.
-/

namespace HeapKit

namespace HashMap

variable {κ ν σ : Type} {map : HashMap κ ν}

/-! ### Single steps -/

theorem returns_occupy (index : Nat) (key : κ) (value : ν) :
    Mutation.Returns (occupy index key value : Mutation σ (HashMap κ ν) Unit) map fun _ next =>
      next = { map with
        slots := map.slots.setIfInBounds index (.occupied key value)
        occupiedAndRemoved := map.occupiedAndRemoved + 1 } :=
  Mutation.returns_modifyContainer _

/-- Setting the value of an occupied slot keeps its key. -/
theorem returns_setValue {index : Nat} {stored : κ} {old : ν}
    (atIndex : map.slots[index]? = some (.occupied stored old)) (value : ν) :
    Mutation.Returns (setValue index value : Mutation σ (HashMap κ ν) Unit) map fun _ next =>
      next = { map with slots := map.slots.setIfInBounds index (.occupied stored value) } := by
  refine (Mutation.returns_modifyContainer _).mono ?_
  rintro _ _ rfl
  rw [modify_eq_setIfInBounds _ atIndex]

/-- A map with room holds the same entries: lookups answer alike. -/
theorem Roomy.lookup_eq (lawful : map.hasher.Lawful) {next : HashMap κ ν} (roomy : Roomy map next)
    (key : κ) :
    AssocList.lookup next.hasher.equal next.entries key =
      AssocList.lookup map.hasher.equal map.entries key := by
  have distinct := roomy.wellFormed.distinct
  rw [roomy.setup.1] at distinct ⊢
  exact (AssocList.lookup_perm lawful distinct roomy.entries key).symm

/-! ### Insertions -/

section Insertions

variable (provider : Provider σ) (wellFormed : map.WellFormed) (lawful : map.hasher.Lawful)
  (valid : map.loadFactor.isValid) (fits : map.GrowthFits)
include wellFormed lawful valid fits

/-- Finding the slot for a key first makes room, which may fail only while obtaining storage;
then the slot is where the walk for the key stops in the map with room. -/
theorem slotFor_ends (key : κ) :
    Mutation.Ends (slotFor provider key) map
      fun found next => Roomy map next ∧ found = next.locate key := by
  unfold slotFor
  refine (ensureRoom_ends provider wellFormed lawful valid fits).bind ?_
  intro _ next roomy
  refine Mutation.Returns.bind Mutation.returns_container ?_
  rintro _ _ ⟨rfl, rfl⟩
  exact Mutation.returns_pure_of ⟨roomy, rfl⟩

theorem insert_ends (key : κ) (value : ν) :
    Mutation.Ends (insert provider key value) map fun added next =>
      next.WellFormed ∧ SameSetup map next ∧
        added = (AssocList.add map.hasher.equal map.entries key value).2 ∧
        next.entries.Perm (AssocList.add map.hasher.equal map.entries key value).1 := by
  unfold insert
  refine (slotFor_ends provider wellFormed lawful valid fits key).bind ?_
  rintro found next ⟨roomy, rfl⟩
  have nextLawful : next.hasher.Lawful := roomy.setup.1 ▸ lawful
  have sameLookup := roomy.lookup_eq lawful key
  unfold AssocList.add
  cases found : AssocList.lookup map.hasher.equal map.entries key with
  | some old =>
    obtain ⟨index, stored, atIndex, equal⟩ := exists_slot_of_lookup_eq_some (sameLookup.trans found)
    rw [locate_of_equal roomy.wellFormed.sound nextLawful atIndex equal]
    exact Mutation.returns_pure_of ⟨roomy.wellFormed, roomy.setup, rfl, roomy.entries⟩
  | none =>
    obtain ⟨index, first, located⟩ :=
      roomy.wellFormed.locate_of_lookup_eq_none roomy.room (sameLookup.trans found)
    rw [located]
    refine (returns_occupy index key value).bind ?_
    rintro _ _ rfl
    obtain ⟨placedWell, placed, -⟩ :=
      roomy.wellFormed.occupy nextLawful value first (sameLookup.trans found) roomy.room
    exact Mutation.returns_pure_of
      ⟨placedWell, roomy.setup, rfl, placed.trans (roomy.entries.append_right _)⟩

theorem insertOrReplace_ends (key : κ) (value : ν) :
    Mutation.Ends (insertOrReplace provider key value) map fun added next =>
      next.WellFormed ∧ SameSetup map next ∧
        added = (AssocList.addOverwrite map.hasher.equal map.entries key value).2 ∧
        next.entries.Perm (AssocList.addOverwrite map.hasher.equal map.entries key value).1 := by
  unfold insertOrReplace
  refine (slotFor_ends provider wellFormed lawful valid fits key).bind ?_
  rintro found next ⟨roomy, rfl⟩
  have nextLawful : next.hasher.Lawful := roomy.setup.1 ▸ lawful
  have sameLookup := roomy.lookup_eq lawful key
  unfold AssocList.addOverwrite
  cases found : AssocList.lookup map.hasher.equal map.entries key with
  | some old =>
    obtain ⟨index, stored, atIndex, equal⟩ := exists_slot_of_lookup_eq_some (sameLookup.trans found)
    rw [locate_of_equal roomy.wellFormed.sound nextLawful atIndex equal]
    refine (returns_setValue atIndex value).bind ?_
    rintro _ _ rfl
    obtain ⟨replacedWell, replaced⟩ := roomy.wellFormed.replaceValue nextLawful atIndex equal
      fun _ => value
    refine Mutation.returns_pure_of ⟨replacedWell, roomy.setup, rfl, ?_⟩
    rw [replaced, roomy.setup.1]
    exact roomy.entries.map _
  | none =>
    obtain ⟨index, first, located⟩ :=
      roomy.wellFormed.locate_of_lookup_eq_none roomy.room (sameLookup.trans found)
    rw [located]
    refine (returns_occupy index key value).bind ?_
    rintro _ _ rfl
    obtain ⟨placedWell, placed, -⟩ :=
      roomy.wellFormed.occupy nextLawful value first (sameLookup.trans found) roomy.room
    exact Mutation.returns_pure_of
      ⟨placedWell, roomy.setup, rfl, placed.trans (roomy.entries.append_right _)⟩

theorem findOrInsert_ends (key : κ) (value : ν) (change : ν → ν) :
    Mutation.Ends (findOrInsert provider key value change) map fun current next =>
      next.WellFormed ∧ SameSetup map next ∧
        current = (AssocList.lookupOrAdd map.hasher.equal map.entries key value change).2 ∧
        next.entries.Perm (AssocList.lookupOrAdd map.hasher.equal map.entries key value change).1 := by
  unfold findOrInsert
  refine (slotFor_ends provider wellFormed lawful valid fits key).bind ?_
  rintro found next ⟨roomy, rfl⟩
  have nextLawful : next.hasher.Lawful := roomy.setup.1 ▸ lawful
  have sameLookup := roomy.lookup_eq lawful key
  unfold AssocList.lookupOrAdd
  cases found : AssocList.lookup map.hasher.equal map.entries key with
  | some old =>
    obtain ⟨index, stored, atIndex, equal⟩ := exists_slot_of_lookup_eq_some (sameLookup.trans found)
    rw [locate_of_equal roomy.wellFormed.sound nextLawful atIndex equal]
    dsimp only
    rw [if_neg (by decide)]
    refine Mutation.Returns.container_bind ?_
    rw [valueAt?_eq_some atIndex]
    refine (returns_setValue atIndex (change old)).bind ?_
    rintro _ _ rfl
    obtain ⟨changedWell, changed⟩ := roomy.wellFormed.replaceValue nextLawful atIndex equal change
    refine Mutation.returns_pure_of ⟨changedWell, roomy.setup, rfl, ?_⟩
    rw [changed, roomy.setup.1]
    exact roomy.entries.map _
  | none =>
    obtain ⟨index, first, located⟩ :=
      roomy.wellFormed.locate_of_lookup_eq_none roomy.room (sameLookup.trans found)
    rw [located]
    dsimp only
    rw [if_pos (by decide)]
    refine (returns_occupy index key value).bind ?_
    rintro _ _ rfl
    -- the new slot is then given the changed value: as if the key had come with it
    obtain ⟨-, -, atIndex⟩ := roomy.wellFormed.occupy nextLawful value first
      (sameLookup.trans found) roomy.room
    obtain ⟨changedWell, placed, -⟩ := roomy.wellFormed.occupy nextLawful (change value)
      first (sameLookup.trans found) roomy.room
    refine Mutation.Returns.container_bind ?_
    rw [valueAt?_eq_some atIndex]
    refine (returns_setValue atIndex (change value)).bind ?_
    rintro _ _ rfl
    refine (Mutation.returns_pure _).mono fun _ _ ⟨answered, unchanged⟩ => unchanged ▸ ?_
    simp only [Array.setIfInBounds_setIfInBounds]
    exact ⟨changedWell, roomy.setup, answered, placed.trans (roomy.entries.append_right _)⟩

end Insertions

/-! ### Lookups and removals -/

section Removals

variable (wellFormed : map.WellFormed) (lawful : map.hasher.Lawful)
include wellFormed lawful

/-- Changing the value of a key in place updates the entry of the key, and answers its value
before the change. -/
theorem WellFormed.modifyExisting (key : κ) (change : ν → ν) :
    (map.modifyExisting key change).1.WellFormed ∧ SameSetup map (map.modifyExisting key change).1 ∧
      (map.modifyExisting key change).1.entries =
        AssocList.update map.hasher.equal map.entries key change ∧
      (map.modifyExisting key change).2 = AssocList.lookup map.hasher.equal map.entries key := by
  cases found : AssocList.lookup map.hasher.equal map.entries key with
  | none =>
    rw [HashMap.modifyExisting, find?_eq_none found, AssocList.update_of_lookup_eq_none found]
    exact ⟨wellFormed, SameSetup.refl map, rfl, rfl⟩
  | some old =>
    obtain ⟨index, stored, atIndex, equal⟩ := exists_slot_of_lookup_eq_some found
    rw [HashMap.modifyExisting, wellFormed.find?_eq_some lawful atIndex equal]
    dsimp only
    rw [valueAt?_eq_some atIndex]
    dsimp only
    rw [modify_eq_setIfInBounds _ atIndex]
    obtain ⟨changedWell, changed⟩ := wellFormed.replaceValue lawful atIndex equal change
    exact ⟨changedWell, ⟨rfl, rfl, rfl, rfl⟩, changed, rfl⟩

/-- Removing a key erases its entry and answers its value. -/
theorem WellFormed.erase (key : κ) :
    (map.erase key).1.WellFormed ∧ SameSetup map (map.erase key).1 ∧
      (map.erase key).1.entries = AssocList.erase map.hasher.equal map.entries key ∧
      (map.erase key).2 = AssocList.lookup map.hasher.equal map.entries key := by
  cases found : AssocList.lookup map.hasher.equal map.entries key with
  | none =>
    rw [HashMap.erase, find?_eq_none found, AssocList.erase_of_lookup_eq_none found]
    exact ⟨wellFormed, SameSetup.refl map, rfl, rfl⟩
  | some old =>
    obtain ⟨index, stored, atIndex, equal⟩ := exists_slot_of_lookup_eq_some found
    rw [HashMap.erase, wellFormed.find?_eq_some lawful atIndex equal]
    obtain ⟨removedWell, removed⟩ := wellFormed.tombstone lawful atIndex equal
    exact ⟨removedWell, ⟨rfl, rfl, rfl, rfl⟩, removed, valueAt?_eq_some atIndex⟩

end Removals

/-! ### Reserving, clearing and releasing -/

/-- Reserving room for `count` entries rebuilds the table when the usable count is below it. -/
theorem reserve_ends (provider : Provider σ) (wellFormed : map.WellFormed)
    (lawful : map.hasher.Lawful) (valid : map.loadFactor.isValid) (count : Int64)
    (fits : map.usable < count → map.loadFactor.SlotsFit (Int64.ofNat map.inlineSlots) count) :
    Mutation.Ends (reserve provider count) map fun _ next =>
      next.WellFormed ∧ SameSetup map next ∧ next.entries.Perm map.entries := by
  unfold reserve
  apply Mutation.Ends.container_bind
  split
  · rename_i larger
    refine (rehash_ends provider count map).mono ?_
    rintro _ _ ⟨storage, rfl⟩
    have below := Int64.lt_iff_toInt_lt.mp larger
    have counted := wellFormed.filled_le_usable
    have sized : map.size ≤ map.occupiedAndRemoved := Nat.sub_le _ _
    obtain ⟨rebuilt, kept⟩ := wellFormed.rebuild lawful valid (fits larger) (by omega) storage
    exact ⟨rebuilt, ⟨rfl, rfl, rfl, rfl⟩, kept⟩
  · exact Mutation.Returns.ends
      (Mutation.returns_pure_of ⟨wellFormed, SameSetup.refl _, List.Perm.refl _⟩)

theorem wellFormed_cleared (map : HashMap κ ν) :
    ({ map with slots := #[.empty], usable := 0, removed := 0, occupiedAndRemoved := 0, mask := 0 } :
      HashMap κ ν).WellFormed where
  shaped := Or.inl ⟨0, by decide, rfl, rfl⟩
  sound := tableSound_replicate 1
  filled := filledCount_replicate 1
  tombstones := tombstoneCount_replicate 1
  filled_le_usable := by simp
  usable_le_size := by simp

theorem wellFormed_released (map : HashMap κ ν) :
    ({ map with slots := #[], usable := 0, removed := 0, occupiedAndRemoved := 0, mask := 0 } :
      HashMap κ ν).WellFormed where
  shaped := Or.inr ⟨rfl, rfl⟩
  sound := tableSound_replicate 0
  filled := filledCount_replicate 0
  tombstones := tombstoneCount_replicate 0
  filled_le_usable := by simp
  usable_le_size := by simp

theorem clear_returns (provider : Provider σ) :
    Mutation.Returns (clear provider) map fun _ next =>
      next.WellFormed ∧ SameSetup map next ∧ next.entries = [] := by
  unfold clear
  refine (returns_releaseTable provider map).bind ?_
  rintro _ _ rfl
  refine (Mutation.returns_modifyContainer _).mono ?_
  rintro _ _ rfl
  exact ⟨wellFormed_cleared _, ⟨rfl, rfl, rfl, rfl⟩, rfl⟩

theorem release_returns (provider : Provider σ) :
    Mutation.Returns (release provider) map fun _ next =>
      next.WellFormed ∧ SameSetup map next ∧ next.entries = [] := by
  unfold release
  refine (returns_releaseTable provider map).bind ?_
  rintro _ _ rfl
  refine (Mutation.returns_modifyContainer _).mono ?_
  rintro _ _ rfl
  exact ⟨wellFormed_released _, ⟨rfl, rfl, rfl, rfl⟩, rfl⟩

end HashMap

end HeapKit
