import Mathlib
import HeapKit.Proofs.HashMap.Representation

/-!
# Growth leaves room

A map grows before an insertion that would fill its usable slots, and a reservation grows it for
a count above its usable slots. Both rebuild the table at the size `LoadFactor.slots` computes
for the entries asked for. Where that arithmetic stays within a word (`SlotsFit`), a growth or a
reservation that gets its storage keeps every entry, keeps the representation invariant, and
leaves at least as many usable slots as were asked for, below the slot count, so that an empty
slot remains; one that is refused its storage leaves the map as it was.

Outside a word the arithmetic wraps. At the load factor `1 / (2 ^ 63 - 1)` the slots needed for
one entry round up to `2 ^ 63`, which is no word, and the table falls back to the four inline
slots with no usable slot at all: four insertions then fill every slot of the table.
-/

namespace HeapKit

namespace Mutation

variable {σ γ α : Type} {operation : Mutation σ γ α} {start : γ}

/-- Two things that every successful run ends in hold together. -/
theorem Ends.and {first second : α → γ → Prop} (ends : Ends operation start first)
    (also : Ends operation start second) :
    Ends operation start fun answer next => first answer next ∧ second answer next := by
  intro storage
  have endsFirst := ends storage
  have endsSecond := also storage
  revert endsFirst endsSecond
  rcases operation.run.run (start, storage) with ⟨_ | answer, next, rest⟩
  · exact fun unchanged _ => unchanged
  · exact fun holdsFirst holdsSecond => ⟨holdsFirst, holdsSecond⟩

end Mutation

namespace HashMap

variable {κ ν σ : Type} {map : HashMap κ ν}

/-- A reservation leaves at least `count` usable slots. -/
theorem reserve_usable (provider : Provider σ) (wellFormed : map.WellFormed)
    (valid : map.loadFactor.isValid) (count : Int64)
    (fits : map.usable < count → map.loadFactor.SlotsFit (Int64.ofNat map.inlineSlots) count) :
    Mutation.Ends (reserve provider count) map fun _ next => count.toInt ≤ next.usable.toInt := by
  unfold reserve
  apply Mutation.Ends.container_bind
  split
  · rename_i larger
    refine (rehash_ends provider count map).mono ?_
    rintro _ _ ⟨storage, rfl⟩
    have below := Int64.lt_iff_toInt_lt.mp larger
    have counted := wellFormed.filled_le_usable
    -- the rebuild's usable count is the one `slots` computes, which covers the count
    exact (LoadFactor.slots_spec map.loadFactor valid (inlineSlots_cases map) (by omega)
      (fits larger)).2.2.1
  · rename_i notLarger
    have atMost : count.toInt ≤ map.usable.toInt := Int64.le_iff_toInt_le.mp (Int64.not_lt.mp notLarger)
    exact Mutation.Returns.ends (Mutation.returns_pure_of atMost)

section Growth

variable (provider : Provider σ) (wellFormed : map.WellFormed) (sized : map.Sized)
  (lawful : map.hasher.Lawful) (valid : map.loadFactor.isValid)
include wellFormed sized lawful valid

/-- Making room for an insertion keeps the entries and the representation invariant and leaves
a usable slot for one more entry than the map held. -/
theorem ensureRoom_leaves_room (fits : map.GrowthFits) :
    Mutation.Ends (ensureRoom provider) map fun _ next =>
      next.Representation ∧ next.entries.Perm map.entries ∧
        (map.size : ℤ) + 1 ≤ next.usable.toInt := by
  refine ((ensureRoom_ends provider wellFormed lawful valid fits).and
    (ensureRoom_sized provider wellFormed valid sized fits)).mono ?_
  rintro _ next ⟨roomy, nextSized⟩
  have nextValid : next.loadFactor.isValid := by rw [roomy.setup.2.2.1]; exact valid
  -- the size is the number of entries, which the rebuild keeps
  have sameSize : next.size = map.size := by
    rw [← roomy.wellFormed.length_entries, ← wellFormed.length_entries]
    exact roomy.entries.length_eq
  have room := roomy.room
  have fewer : next.size ≤ next.occupiedAndRemoved := Nat.sub_le _ _
  refine ⟨roomy.wellFormed.representation nextSized nextValid, roomy.entries, ?_⟩
  omega

/-- A reservation keeps the entries and the representation invariant, leaves at least `count`
usable slots, and, for a positive count, an empty slot. -/
theorem reserve_leaves_room (count : Int64)
    (fits : map.usable < count → map.loadFactor.SlotsFit (Int64.ofNat map.inlineSlots) count) :
    Mutation.Ends (reserve provider count) map fun _ next =>
      next.Representation ∧ next.entries.Perm map.entries ∧ count.toInt ≤ next.usable.toInt ∧
        (0 < count.toInt → ∃ index : Nat, next.slots[index]? = some Slot.empty) := by
  refine (((reserve_ends provider wellFormed lawful valid count fits).and
    (reserve_sized provider wellFormed valid sized count fits)).and
    (reserve_usable provider wellFormed valid count fits)).mono ?_
  rintro _ next ⟨⟨⟨nextWell, setup, kept⟩, nextSized⟩, enough⟩
  have nextValid : next.loadFactor.isValid := by rw [setup.2.2.1]; exact valid
  have represented := nextWell.representation nextSized nextValid
  refine ⟨represented, kept, enough, fun positive => represented.exists_empty ?_⟩
  -- a table without slots has no usable slot, so a positive count forces slots
  apply Nat.pos_of_ne_zero
  intro noSlots
  have usableZero := represented.usable_eq
  rw [noSlots, Nat.cast_zero, zero_mul, Int.zero_ediv] at usableZero
  omega

end Growth

/-- Where the sizing arithmetic of `LoadFactor.slots` stays within a word, a table built by it is
sound for every map a run reaches from a fresh map, under a lawful hasher and a valid load factor:
its slot count is a power of two and at least the inline count, its usable count covers the
entries asked for and stays below the slot count; making room for an insertion leaves a usable
slot beyond the entries, and a reservation leaves at least the count reserved, with the entries
and the representation invariant kept and an empty slot left. Either is refused its storage only
by leaving the map as it was. -/
theorem reaches_growth_sound {hasher : Hasher κ} {probing : Probing} {loadFactor : LoadFactor}
    {slotSize : Nat} {accounted : Bool} {provider : Provider σ} {state : HashMap κ ν × σ}
    {entries : List (κ × ν)} (lawful : hasher.Lawful) (valid : loadFactor.isValid)
    (reaches : Reaches provider (empty hasher probing loadFactor slotSize accounted) state entries) :
    (∀ minUsable : Int64, 0 < minUsable.toInt →
      loadFactor.SlotsFit (Int64.ofNat state.1.inlineSlots) minUsable →
      (∃ bits < 63, (loadFactor.slots (Int64.ofNat state.1.inlineSlots) minUsable).1.toInt = 2 ^ bits) ∧
        (state.1.inlineSlots : ℤ) ≤ (loadFactor.slots (Int64.ofNat state.1.inlineSlots) minUsable).1.toInt ∧
        minUsable.toInt ≤ (loadFactor.slots (Int64.ofNat state.1.inlineSlots) minUsable).2.toInt ∧
        (loadFactor.slots (Int64.ofNat state.1.inlineSlots) minUsable).2.toInt <
          (loadFactor.slots (Int64.ofNat state.1.inlineSlots) minUsable).1.toInt) ∧
      (state.1.GrowthFits →
        Mutation.Ends (ensureRoom provider) state.1 fun _ next =>
          next.Representation ∧ next.entries.Perm state.1.entries ∧
            (state.1.size : ℤ) + 1 ≤ next.usable.toInt) ∧
      ∀ count : Int64,
        (state.1.usable < count → loadFactor.SlotsFit (Int64.ofNat state.1.inlineSlots) count) →
        Mutation.Ends (reserve provider count) state.1 fun _ next =>
          next.Representation ∧ next.entries.Perm state.1.entries ∧
            count.toInt ≤ next.usable.toInt ∧
            (0 < count.toInt → ∃ index : Nat, next.slots[index]? = some Slot.empty) := by
  have freshWell := wellFormed_empty hasher probing loadFactor slotSize accounted (ν := ν)
  obtain ⟨wellFormed, setup, -, -⟩ := reaches.invariant freshWell rfl lawful valid
  have sized := reaches.sized freshWell rfl lawful valid (sized_empty hasher probing valid _ _)
  have mapLawful : state.1.hasher.Lawful := by rw [setup.1]; exact lawful
  have mapValid : state.1.loadFactor.isValid := by rw [setup.2.2.1]; exact valid
  have inline : (Int64.ofNat state.1.inlineSlots).toInt = state.1.inlineSlots :=
    toInt_ofNat_inlineSlots state.1
  refine ⟨fun minUsable positive fit => ?_, fun fits =>
    ensureRoom_leaves_room provider wellFormed sized mapLawful mapValid fits,
    fun count fits => reserve_leaves_room provider wellFormed sized mapLawful mapValid count ?_⟩
  · have spec := LoadFactor.slots_spec loadFactor valid (inlineSlots_cases state.1) positive fit
    rw [inline] at spec
    exact spec
  · rw [setup.2.2.1]
    exact fits

/-- The fresh map of signed keys at the load factor one half meets the hypotheses. -/
theorem reaches_growth_sound_fresh :
    let hasher : Hasher Key := ⟨(KeyKind.signed 64).hash, (KeyKind.signed 64).equal⟩
    let provider : Provider Unit := ⟨fun _ _ storage => (.ok 0, storage), fun _ storage => storage⟩
    let fresh : HashMap Key Int64 := empty hasher Probing.standard LoadFactor.half 24 true
    let start := (fresh, ())
    hasher.Lawful ∧ LoadFactor.half.isValid ∧ Reaches provider fresh start [] ∧
      ((∀ minUsable : Int64, 0 < minUsable.toInt →
        LoadFactor.half.SlotsFit (Int64.ofNat start.1.inlineSlots) minUsable →
        (∃ bits < 63, (LoadFactor.half.slots (Int64.ofNat start.1.inlineSlots) minUsable).1.toInt = 2 ^ bits) ∧
          (start.1.inlineSlots : ℤ) ≤ (LoadFactor.half.slots (Int64.ofNat start.1.inlineSlots) minUsable).1.toInt ∧
          minUsable.toInt ≤ (LoadFactor.half.slots (Int64.ofNat start.1.inlineSlots) minUsable).2.toInt ∧
          (LoadFactor.half.slots (Int64.ofNat start.1.inlineSlots) minUsable).2.toInt <
            (LoadFactor.half.slots (Int64.ofNat start.1.inlineSlots) minUsable).1.toInt) ∧
        (start.1.GrowthFits →
          Mutation.Ends (ensureRoom provider) start.1 fun _ next =>
            next.Representation ∧ next.entries.Perm start.1.entries ∧
              (start.1.size : ℤ) + 1 ≤ next.usable.toInt) ∧
        ∀ count : Int64,
          (start.1.usable < count → LoadFactor.half.SlotsFit (Int64.ofNat start.1.inlineSlots) count) →
          Mutation.Ends (reserve provider count) start.1 fun _ next =>
            next.Representation ∧ next.entries.Perm start.1.entries ∧
              count.toInt ≤ next.usable.toInt ∧
              (0 < count.toInt → ∃ index : Nat, next.slots[index]? = some Slot.empty)) := by
  intro hasher provider fresh start
  have lawful : hasher.Lawful := KeyKind.lawful (.signed 64)
  have valid : LoadFactor.half.isValid := by decide
  have reaches : Reaches provider fresh start [] := Reaches.start ()
  exact ⟨lawful, valid, reaches, reaches_growth_sound lawful valid reaches⟩

/-- The load factor with the largest denominator a word holds. -/
def largestDenominator : LoadFactor := ⟨1, 9223372036854775807⟩

/-- Four insertions of signed keys into a fresh map at the load factor `1 / (2 ^ 63 - 1)`. -/
def fourInsertionsAtLargestDenominator : HashMap Key Int64 :=
  let hasher : Hasher Key := ⟨(KeyKind.signed 64).hash, (KeyKind.signed 64).equal⟩
  let provider : Provider Unit := ⟨fun _ _ storage => (.ok 0, storage), fun _ storage => storage⟩
  let insertKey := fun (state : HashMap Key Int64 × Unit) (key : Int) =>
    ((insert provider (Key.integer key) (1 : Int64)).run.run state).2
  (insertKey (insertKey (insertKey (insertKey
    (empty hasher Probing.standard largestDenominator 24 false, ()) 1) 2) 3) 4).1

set_option maxRecDepth 10000 in
/-- At a valid load factor whose denominator is the largest word, the table for one entry wraps
to the four inline slots with no usable slot, and four insertions fill every slot of it while
the usable count stays zero. -/
theorem slots_wrap_at_largest_denominator :
    largestDenominator.isValid = true ∧ largestDenominator.slots 4 1 = (4, 0) ∧
      (fourInsertionsAtLargestDenominator.size, fourInsertionsAtLargestDenominator.totalSlots,
        fourInsertionsAtLargestDenominator.usable.toInt,
        filledCount fourInsertionsAtLargestDenominator.slots) = (4, 4, 0, 4) := by
  decide

end HashMap

end HeapKit
