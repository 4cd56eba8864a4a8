import Mathlib
import HeapKit.Proofs.HashMap.Refinement

/-!
# The representation invariant of maps

Every map that a run of operations reaches from a fresh map keeps its table in one shape. It has
no slots after a release, one empty slot when fresh or cleared, and otherwise a power of two of
slots, at least the inline count, with a mask one below the slot count. Its counters count what
the table holds: filled slots, tombstones, and so entries. Its usable count is the load factor's
share of the slots rounded down and lies between the filled slots and the slot count, so some slot
is always empty. No two entries have equal keys, and every entry lies on its key's probe sequence
before any empty slot.

What `WellFormed` keeps (the table, its counters and its soundness) is carried along a run by
`Reaches.invariant`. This file adds `Sized`, the link between the usable count and the table size
that only rebuilds, clears and releases change, proves it kept by every operation
(`Op.run_sized`) and along every run (`Reaches.sized`), and assembles the two into
`Representation`. A rebuild drops every tombstone (`rehash_drops_tombstones`).
-/

namespace HeapKit

namespace HashMap

variable {κ ν σ : Type} {map next : HashMap κ ν}

/-! ### Table sizes and usable counts -/

/-- The usable count is the load factor's share of the slots, rounded down, and a table of more
than one slot has at least the inline count. -/
structure Sized (map : HashMap κ ν) : Prop where
  usable_eq : map.usable.toInt =
    map.totalSlots * map.loadFactor.numerator.toInt / map.loadFactor.denominator.toInt
  total_cases : map.totalSlots ≤ 1 ∨ map.inlineSlots ≤ map.totalSlots

/-- Two maps alike in everything `Sized` reads: table size, usable count, load factor and slot
size. -/
def SameSizing (map next : HashMap κ ν) : Prop :=
  next.slots.size = map.slots.size ∧ next.usable = map.usable ∧
    next.loadFactor = map.loadFactor ∧ next.slotSize = map.slotSize

theorem SameSizing.refl (map : HashMap κ ν) : SameSizing map map := ⟨rfl, rfl, rfl, rfl⟩

theorem Sized.of_sameSizing (sized : map.Sized) (same : SameSizing map next) : next.Sized := by
  obtain ⟨slotsEq, usableEq, factorEq, slotSizeEq⟩ := same
  have inlineEq : next.inlineSlots = map.inlineSlots := by
    rw [inlineSlots, inlineSlots, slotSizeEq]
  constructor
  · rw [usableEq, totalSlots, slotsEq, factorEq]
    exact sized.usable_eq
  · rw [totalSlots, slotsEq, inlineEq]
    exact sized.total_cases

/-- A table of at most one slot has no usable slot under a valid load factor. -/
theorem sized_of_le_one (valid : map.loadFactor.isValid) (small : map.totalSlots ≤ 1)
    (noneUsable : map.usable = 0) : map.Sized := by
  have numerator := LoadFactor.numerator_pos map.loadFactor valid
  have denominator := LoadFactor.numerator_lt_denominator map.loadFactor valid
  refine ⟨?_, .inl small⟩
  rw [noneUsable, Int64.toInt_zero, eq_comm]
  apply Int.ediv_eq_zero_of_lt (by positivity)
  have : (map.totalSlots : ℤ) ≤ 1 := by exact_mod_cast small
  nlinarith

theorem sized_empty (hasher : Hasher κ) (probing : Probing) {loadFactor : LoadFactor}
    (valid : loadFactor.isValid) (slotSize : Nat) (accounted : Bool) :
    (empty hasher probing loadFactor slotSize accounted : HashMap κ ν).Sized :=
  sized_of_le_one valid (Nat.le_refl 1) rfl

theorem size_placeAll (map : HashMap κ ν) (mask : UInt64) (slots : Array (Slot κ ν))
    (entries : List (κ × ν)) : (map.placeAll mask slots entries).size = slots.size := by
  induction entries generalizing slots with
  | nil => rfl
  | cons entry rest inductionHypothesis =>
    obtain ⟨key, value⟩ := entry
    simp only [placeAll]
    rw [inductionHypothesis]
    split <;> simp

theorem toInt_ofNat_inlineSlots (map : HashMap κ ν) :
    (Int64.ofNat map.inlineSlots).toInt = map.inlineSlots := by
  unfold inlineSlots inlineCapacity
  split <;> decide

/-- A rebuild whose sizing stays within a word has a power of two of slots, at least the inline
count, and the load factor's share of them as its usable count. -/
theorem sized_rebuild (valid : map.loadFactor.isValid) {minUsable : Int64}
    (fit : map.loadFactor.SlotsFit (Int64.ofNat map.inlineSlots) minUsable)
    (positive : 0 < minUsable.toInt) (storage : Option Nat) :
    (map.rebuild minUsable storage).Sized ∧
      (∃ bits : ℕ, (map.rebuild minUsable storage).totalSlots = 2 ^ bits) ∧
      (map.rebuild minUsable storage).inlineSlots ≤ (map.rebuild minUsable storage).totalSlots := by
  obtain ⟨⟨bits, -, power⟩, atLeastInline, -, -⟩ :=
    LoadFactor.slots_spec map.loadFactor valid (inlineSlots_cases map) positive fit
  obtain ⟨totalExact, usableExact⟩ := LoadFactor.slots_toInt map.loadFactor valid _ _ fit
  unfold HashMap.rebuild
  rcases slotsEq : map.loadFactor.slots (Int64.ofNat map.inlineSlots) minUsable with
    ⟨total, usable⟩
  rw [slotsEq] at power atLeastInline totalExact usableExact
  dsimp only at power atLeastInline totalExact usableExact ⊢
  have count : ((total.toInt.toNat : ℕ) : ℤ) = total.toInt := by
    rw [Int.toNat_of_nonneg (by rw [power]; positivity)]
  have sized : (map.placeAll (total - 1).toUInt64
      (Array.replicate total.toInt.toNat .empty) map.entries).size = total.toInt.toNat := by
    rw [size_placeAll, Array.size_replicate]
  have atLeast : map.inlineSlots ≤ (map.placeAll (total - 1).toUInt64
      (Array.replicate total.toInt.toNat .empty) map.entries).size := by
    rw [toInt_ofNat_inlineSlots] at atLeastInline
    rw [sized]
    omega
  refine ⟨⟨?_, .inr atLeast⟩, ⟨bits, ?_⟩, atLeast⟩
  · show usable.toInt = ((map.placeAll _ _ map.entries).size : ℤ) *
      map.loadFactor.numerator.toInt / map.loadFactor.denominator.toInt
    have totalNonneg : 0 ≤ (map.loadFactor.exactSlots (Int64.ofNat map.inlineSlots).toInt
        minUsable.toInt).1 := by
      rw [← totalExact, power]
      positivity
    rw [sized, count, usableExact, totalExact]
    -- the usable count is computed with truncating division, which rounds down here
    exact Int.tdiv_eq_ediv_of_nonneg
      (mul_nonneg totalNonneg (LoadFactor.numerator_pos map.loadFactor valid).le)
  · show (map.placeAll _ _ map.entries).size = 2 ^ bits
    rw [sized]
    exact_mod_cast count.trans power

/-! ### Every operation keeps the sizing -/

theorem returns_occupy_sized (sized : map.Sized) (index : Nat) (key : κ) (value : ν) :
    Mutation.Returns (occupy index key value : Mutation σ (HashMap κ ν) Unit) map
      fun _ next => next.Sized := by
  refine (returns_occupy index key value).mono ?_
  rintro _ _ rfl
  exact sized.of_sameSizing ⟨Array.size_setIfInBounds, rfl, rfl, rfl⟩

theorem returns_setValue_sized (sized : map.Sized) (index : Nat) (value : ν) :
    Mutation.Returns (setValue index value : Mutation σ (HashMap κ ν) Unit) map
      fun _ next => next.Sized := by
  refine (Mutation.returns_modifyContainer _).mono ?_
  rintro _ _ rfl
  exact sized.of_sameSizing ⟨Array.size_modify, rfl, rfl, rfl⟩

theorem sameSizing_modifyExisting (map : HashMap κ ν) (key : κ) (change : ν → ν) :
    SameSizing map (map.modifyExisting key change).1 := by
  unfold modifyExisting
  split
  · split
    · exact ⟨Array.size_modify, rfl, rfl, rfl⟩
    · exact SameSizing.refl map
  · exact SameSizing.refl map

theorem sameSizing_erase (map : HashMap κ ν) (key : κ) : SameSizing map (map.erase key).1 := by
  unfold HashMap.erase
  split
  · exact ⟨Array.size_setIfInBounds, rfl, rfl, rfl⟩
  · exact SameSizing.refl map

section Growth

variable (provider : Provider σ) (wellFormed : map.WellFormed) (valid : map.loadFactor.isValid)
  (sized : map.Sized)
include wellFormed valid sized

/-- Making room either leaves the sizing alone or rebuilds the table for one more entry. -/
theorem ensureRoom_sized (fits : map.GrowthFits) :
    Mutation.Ends (ensureRoom provider) map fun _ next => next.Sized := by
  unfold ensureRoom
  apply Mutation.Ends.container_bind
  have exact := wellFormed.toInt_ofNat_size_succ
  split
  · rename_i full
    refine (rehash_ends provider _ map).mono ?_
    rintro _ _ ⟨storage, rfl⟩
    exact (sized_rebuild valid (fits full) (by omega) storage).1
  · exact (Mutation.returns_pure_keeps sized ()).ends

theorem slotFor_sized (fits : map.GrowthFits) (key : κ) :
    Mutation.Ends (slotFor provider key) map fun _ next => next.Sized := by
  unfold slotFor
  refine (ensureRoom_sized provider wellFormed valid sized fits).bind ?_
  intro _ next nextSized
  refine Mutation.Returns.bind Mutation.returns_container ?_
  rintro _ _ ⟨rfl, rfl⟩
  exact Mutation.returns_pure_keeps nextSized _

theorem insert_sized (fits : map.GrowthFits) (key : κ) (value : ν) :
    Mutation.Ends (insert provider key value) map fun _ next => next.Sized := by
  unfold insert
  refine (slotFor_sized provider wellFormed valid sized fits key).bind ?_
  intro found next nextSized
  split
  · exact (returns_occupy_sized nextSized _ key value).bind fun _ _ occupied =>
      Mutation.returns_pure_keeps occupied true
  · exact Mutation.returns_pure_keeps nextSized false

theorem insertOrReplace_sized (fits : map.GrowthFits) (key : κ) (value : ν) :
    Mutation.Ends (insertOrReplace provider key value) map fun _ next => next.Sized := by
  unfold insertOrReplace
  refine (slotFor_sized provider wellFormed valid sized fits key).bind ?_
  intro found next nextSized
  split
  · exact (returns_occupy_sized nextSized _ key value).bind fun _ _ occupied =>
      Mutation.returns_pure_keeps occupied true
  · exact (returns_setValue_sized nextSized _ value).bind fun _ _ replaced =>
      Mutation.returns_pure_keeps replaced false
  · exact Mutation.returns_pure_keeps nextSized false

theorem findOrInsert_sized (fits : map.GrowthFits) (key : κ) (value : ν) (change : ν → ν) :
    Mutation.Ends (findOrInsert provider key value change) map fun _ next => next.Sized := by
  unfold findOrInsert
  refine (slotFor_sized provider wellFormed valid sized fits key).bind ?_
  intro found next nextSized
  split
  · rename_i index wasFound
    -- a new key is placed first; in either case the stored value is then changed in place
    refine Mutation.Returns.ite_then nextSized (returns_occupy_sized nextSized index key value)
      fun placed placedSized => Mutation.Returns.container_bind ?_
    dsimp only
    split
    · exact (returns_setValue_sized placedSized _ _).bind fun _ _ changed =>
        Mutation.returns_pure_keeps changed _
    · exact Mutation.returns_pure_keeps placedSized _
  · exact Mutation.returns_pure_keeps nextSized none

theorem reserve_sized (count : Int64)
    (fits : map.usable < count → map.loadFactor.SlotsFit (Int64.ofNat map.inlineSlots) count) :
    Mutation.Ends (reserve provider count) map fun _ next => next.Sized := by
  unfold reserve
  apply Mutation.Ends.container_bind
  split
  · rename_i larger
    refine (rehash_ends provider count map).mono ?_
    rintro _ _ ⟨storage, rfl⟩
    have below := Int64.lt_iff_toInt_lt.mp larger
    have counted := wellFormed.filled_le_usable
    exact (sized_rebuild valid (fits larger) (by omega) storage).1
  · exact (Mutation.returns_pure_keeps sized ()).ends

end Growth

theorem clear_sized (provider : Provider σ) (valid : map.loadFactor.isValid) :
    Mutation.Returns (clear provider) map fun _ next => next.Sized ∧ next.totalSlots = 1 := by
  unfold clear
  refine (returns_releaseTable provider map).bind ?_
  rintro _ _ rfl
  refine (Mutation.returns_modifyContainer _).mono ?_
  rintro _ _ rfl
  exact ⟨sized_of_le_one valid (Nat.le_refl 1) rfl, rfl⟩

theorem release_sized (provider : Provider σ) (valid : map.loadFactor.isValid) :
    Mutation.Returns (release provider) map fun _ next => next.Sized ∧ next.totalSlots = 0 := by
  unfold release
  refine (returns_releaseTable provider map).bind ?_
  rintro _ _ rfl
  refine (Mutation.returns_modifyContainer _).mono ?_
  rintro _ _ rfl
  exact ⟨sized_of_le_one valid (Nat.zero_le 1) rfl, rfl⟩

/-- One step keeps the sizing: each operation's own lemma. -/
theorem Op.run_sized (provider : Provider σ) (wellFormed : map.WellFormed)
    (valid : map.loadFactor.isValid) (sized : map.Sized) (op : Op κ ν) (fits : op.Fits map) :
    Mutation.Ends (op.run provider) map fun _ next => next.Sized := by
  cases op with
  | add key value =>
    exact (insert_sized provider wellFormed valid sized fits key value).map fun _ _ => id
  | addOverwrite key value =>
    exact (insertOrReplace_sized provider wellFormed valid sized fits key value).map fun _ _ => id
  | lookupOrAdd key value change =>
    exact (findOrInsert_sized provider wellFormed valid sized fits key value change).map
      fun _ _ => id
  | update key change =>
    refine Mutation.Ends.container_bind (Mutation.Returns.ends ?_)
    refine (Mutation.returns_setContainer _).bind ?_
    rintro _ _ rfl
    exact Mutation.returns_pure_keeps (sized.of_sameSizing (sameSizing_modifyExisting map key change)) _
  | pop key =>
    refine Mutation.Ends.container_bind (Mutation.Returns.ends ?_)
    refine (Mutation.returns_setContainer _).bind ?_
    rintro _ _ rfl
    exact Mutation.returns_pure_keeps (sized.of_sameSizing (sameSizing_erase map key)) _
  | reserve count =>
    exact (reserve_sized provider wellFormed valid sized count fits).bind fun _ _ reserved =>
      Mutation.returns_pure_keeps reserved _
  | clear =>
    exact ((clear_sized provider valid).bind fun _ _ cleared =>
      Mutation.returns_pure_keeps cleared.1 _).ends
  | release =>
    exact ((release_sized provider valid).bind fun _ _ released =>
      Mutation.returns_pure_keeps released.1 _).ends

/-- Every map a run reaches is sized, by induction on the run: each step keeps it, given the
well-formedness `Reaches.invariant` provides for the state it starts from. -/
theorem Reaches.sized {provider : Provider σ} {fresh : HashMap κ ν} (freshWell : fresh.WellFormed)
    (freshEmpty : fresh.entries = []) (lawful : fresh.hasher.Lawful)
    (valid : fresh.loadFactor.isValid) (freshSized : fresh.Sized) {state : HashMap κ ν × σ}
    {entries : List (κ × ν)} (reaches : Reaches provider fresh state entries) : state.1.Sized := by
  induction reaches with
  | start storage => exact freshSized
  | @step state entries op previous fits inductionHypothesis =>
    obtain ⟨wellFormed, setup, -, -⟩ := previous.invariant freshWell freshEmpty lawful valid
    obtain ⟨map, storage⟩ := state
    have mapValid : map.loadFactor.isValid := by rw [setup.2.2.1]; exact valid
    have stepped := Op.run_sized provider wellFormed mapValid inductionHypothesis op fits storage
    revert stepped
    rcases (op.run provider).run.run (map, storage) with ⟨_ | answer, next, rest⟩
    · rintro rfl
      exact inductionHypothesis
    · exact id

/-! ### The invariant as the counters and the table read -/

/-- The representation invariant of a map. -/
structure Representation (map : HashMap κ ν) : Prop where
  /-- No slots, one slot, or a power of two of slots that is at least the inline count. -/
  total_cases : map.totalSlots = 0 ∨ map.totalSlots = 1 ∨
    (∃ bits : ℕ, map.totalSlots = 2 ^ bits) ∧ map.inlineSlots ≤ map.totalSlots
  /-- The mask is one below the slot count, and zero without slots. -/
  mask_eq : map.mask.toNat = map.totalSlots - 1
  /-- The occupied-and-removed counter counts the slots that are not empty. -/
  filled : filledCount map.slots = map.occupiedAndRemoved
  /-- The removed counter counts the tombstones. -/
  tombstones : tombstoneCount map.slots = map.removed
  /-- The size is the number of occupied slots. -/
  size_eq : map.size = (entriesOf map.slots).length
  filled_le_usable : (map.occupiedAndRemoved : ℤ) ≤ map.usable.toInt
  /-- The usable count is the load factor's share of the slots, rounded down. -/
  usable_eq : map.usable.toInt =
    map.totalSlots * map.loadFactor.numerator.toInt / map.loadFactor.denominator.toInt
  usable_lt : 0 < map.totalSlots → map.usable.toInt < map.totalSlots
  exists_empty : 0 < map.totalSlots → ∃ index : Nat, map.slots[index]? = some Slot.empty
  /-- No two occupied slots hold equal keys, and every occupied slot lies on its key's probe
  sequence before any empty slot. -/
  sound : TableSound map.hasher map.probing map.slots map.mask

/-- A well-formed, sized map under a valid load factor satisfies the representation
invariant. -/
theorem WellFormed.representation (wellFormed : map.WellFormed) (sized : map.Sized)
    (valid : map.loadFactor.isValid) : map.Representation := by
  have numerator := LoadFactor.numerator_pos map.loadFactor valid
  have denominator := LoadFactor.numerator_lt_denominator map.loadFactor valid
  have usableBelow : 0 < map.totalSlots → map.usable.toInt < map.totalSlots := by
    intro positive
    rw [sized.usable_eq, Int.ediv_lt_iff_lt_mul (by omega)]
    have : (0 : ℤ) < map.totalSlots := by exact_mod_cast positive
    nlinarith
  have filledBelow := wellFormed.filled_le_usable
  refine ⟨?_, ?_, wellFormed.filled, wellFormed.tombstones, ?_, filledBelow, sized.usable_eq,
    usableBelow, fun positive => ?_, wellFormed.sound⟩
  · rcases wellFormed.shaped with ⟨bits, -, sizeEq, -⟩ | ⟨noSlots, -⟩
    · rcases sized.total_cases with small | large
      · have : 0 < map.totalSlots := by rw [totalSlots, sizeEq]; positivity
        exact .inr (.inl (by omega))
      · exact .inr (.inr ⟨⟨bits, sizeEq⟩, large⟩)
    · exact .inl noSlots
  · rcases wellFormed.shaped with ⟨bits, -, sizeEq, maskEq⟩ | ⟨noSlots, maskZero⟩
    · rw [maskEq, totalSlots, sizeEq]
    · rw [maskZero, totalSlots, noSlots]
      rfl
  · rw [← entries_eq_entriesOf, wellFormed.length_entries]
  · have fewer : filledCount map.slots < map.slots.size := by
      have := usableBelow positive
      rw [wellFormed.filled]
      unfold totalSlots at this
      omega
    exact exists_empty_of_filledCount_lt fewer

/-- A rebuild from a well-formed map, for more entries than it holds, keeps no tombstone: the
removed counter is zero and the occupied-and-removed counter is the size. -/
theorem rehash_drops_tombstones (provider : Provider σ) (wellFormed : map.WellFormed)
    (lawful : map.hasher.Lawful) (valid : map.loadFactor.isValid) {minUsable : Int64}
    (fit : map.loadFactor.SlotsFit (Int64.ofNat map.inlineSlots) minUsable)
    (enough : (map.size : ℤ) < minUsable.toInt) :
    Mutation.Ends (rehash provider minUsable) map fun _ next =>
      next.Representation ∧ next.removed = 0 ∧ tombstoneCount next.slots = 0 ∧
        next.occupiedAndRemoved = next.size ∧ next.entries.Perm map.entries ∧
        (∃ bits : ℕ, next.totalSlots = 2 ^ bits) ∧ next.inlineSlots ≤ next.totalSlots := by
  refine (rehash_ends provider minUsable map).mono ?_
  rintro _ _ ⟨storage, rfl⟩
  obtain ⟨rebuilt, kept⟩ := wellFormed.rebuild lawful valid fit enough storage
  obtain ⟨sized, power, atLeastInline⟩ := sized_rebuild valid fit (by omega) storage
  have noTombstones : (map.rebuild minUsable storage).removed = 0 := rfl
  refine ⟨rebuilt.representation sized valid, noTombstones,
    rebuilt.tombstones.trans noTombstones, ?_, kept, power, atLeastInline⟩
  rw [HashMap.size, noTombstones, Nat.sub_zero]

/-- Every map a run of operations reaches from a fresh map, under a lawful hasher and a valid
load factor and with every rebuild's sizing within a word, satisfies the representation
invariant. A fresh map has one slot; clearing leaves one slot and releasing none; a rebuild from a
reachable map drops every tombstone and has a power of two of slots, at least the inline count. -/
theorem reaches_representation {hasher : Hasher κ} {probing : Probing} {loadFactor : LoadFactor}
    {slotSize : Nat} {accounted : Bool} {provider : Provider σ} {state : HashMap κ ν × σ}
    {entries : List (κ × ν)} (lawful : hasher.Lawful) (valid : loadFactor.isValid)
    (reaches : Reaches provider (empty hasher probing loadFactor slotSize accounted) state entries) :
    state.1.Representation ∧
      (empty hasher probing loadFactor slotSize accounted : HashMap κ ν).totalSlots = 1 ∧
      Mutation.Returns (clear provider) state.1 (fun _ next => next.totalSlots = 1) ∧
      Mutation.Returns (release provider) state.1 (fun _ next => next.totalSlots = 0) ∧
      ∀ minUsable : Int64, (state.1.size : ℤ) < minUsable.toInt →
        state.1.loadFactor.SlotsFit (Int64.ofNat state.1.inlineSlots) minUsable →
        Mutation.Ends (rehash provider minUsable) state.1 fun _ next =>
          next.Representation ∧ next.removed = 0 ∧ tombstoneCount next.slots = 0 ∧
            next.occupiedAndRemoved = next.size ∧
            (∃ bits : ℕ, next.totalSlots = 2 ^ bits) ∧ next.inlineSlots ≤ next.totalSlots := by
  have freshWell := wellFormed_empty hasher probing loadFactor slotSize accounted (ν := ν)
  obtain ⟨wellFormed, setup, -, -⟩ := reaches.invariant freshWell rfl lawful valid
  have sized := reaches.sized freshWell rfl lawful valid (sized_empty hasher probing valid _ _)
  have mapLawful : state.1.hasher.Lawful := by rw [setup.1]; exact lawful
  have mapValid : state.1.loadFactor.isValid := by rw [setup.2.2.1]; exact valid
  refine ⟨wellFormed.representation sized mapValid, rfl,
    (clear_sized provider mapValid).mono fun _ _ cleared => cleared.2,
    (release_sized provider mapValid).mono fun _ _ released => released.2,
    fun minUsable enough fit => ?_⟩
  refine (rehash_drops_tombstones provider wellFormed mapLawful mapValid fit enough).mono ?_
  rintro _ next ⟨represented, noTombstones, cleanTable, counted, -, power, atLeastInline⟩
  exact ⟨represented, noTombstones, cleanTable, counted, power, atLeastInline⟩

/-- The run of one insertion into a fresh map of signed keys meets the hypotheses. -/
theorem reaches_representation_first_add :
    let hasher : Hasher Key := ⟨(KeyKind.signed 64).hash, (KeyKind.signed 64).equal⟩
    let provider : Provider Unit := ⟨fun _ _ storage => (.ok 0, storage), fun _ storage => storage⟩
    let fresh : HashMap Key Int64 := empty hasher Probing.standard LoadFactor.half 24 true
    let first : Op Key Int64 := .add (.integer 7) 1
    let ran := (first.run provider).run.run (fresh, ())
    let entries := first.after hasher.equal [] ran.1
    hasher.Lawful ∧ LoadFactor.half.isValid ∧ Reaches provider fresh ran.2 entries ∧
      (ran.2.1.Representation ∧ fresh.totalSlots = 1 ∧
        Mutation.Returns (clear provider) ran.2.1 (fun _ next => next.totalSlots = 1) ∧
        Mutation.Returns (release provider) ran.2.1 (fun _ next => next.totalSlots = 0) ∧
        ∀ minUsable : Int64, (ran.2.1.size : ℤ) < minUsable.toInt →
          ran.2.1.loadFactor.SlotsFit (Int64.ofNat ran.2.1.inlineSlots) minUsable →
          Mutation.Ends (rehash provider minUsable) ran.2.1 fun _ next =>
            next.Representation ∧ next.removed = 0 ∧ tombstoneCount next.slots = 0 ∧
              next.occupiedAndRemoved = next.size ∧
              (∃ bits : ℕ, next.totalSlots = 2 ^ bits) ∧ next.inlineSlots ≤ next.totalSlots) := by
  intro hasher provider fresh first ran entries
  have lawful : hasher.Lawful := KeyKind.lawful (.signed 64)
  have valid : LoadFactor.half.isValid := by decide
  have fits : first.Fits fresh := by
    intro _
    unfold LoadFactor.SlotsFit LoadFactor.InWord LoadFactor.exactSlots LoadFactor.slotsNeeded
      LoadFactor.ceilPowerOfTwo
    decide
  have reaches : Reaches provider fresh ran.2 entries := Reaches.step first (Reaches.start ()) fits
  exact ⟨lawful, valid, reaches, reaches_representation lawful valid reaches⟩

end HashMap

end HeapKit
