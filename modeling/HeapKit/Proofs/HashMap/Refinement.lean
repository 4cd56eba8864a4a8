import Mathlib
import HeapKit.Proofs.HashMap.Operations
import HeapKit.Proofs.HashMap.Keys

/-!
# Maps refine association lists

A run of operations on a map, from a fresh map, is followed by an association list built by the
same operations on lists (`Op.spec`). `Reaches` relates each state a run can reach to that list;
an operation that fails leaves the list as it was, as it leaves the map. Under a lawful hasher and
a valid load factor, and as long as each rebuild's sizing stays within a word (`Op.Fits`), every
reachable map holds exactly the list's entries, whose keys are pairwise unequal, answers lookups
as the list does, and answers the next operation as the list's operation does.

The run is a fold of one step lemma (`Op.run_ends`, one case per operation, each the lemma of
`Operations` for it) with the fact that the list operations do not depend on the order of
entries (`Op.spec_perm`).
-/

namespace HeapKit

namespace HashMap

variable {κ ν σ : Type}

/-- An operation on a map as a caller issues it: the three insertions, a change of the value of a
present key, a removal, and the storage operations. -/
inductive Op (κ ν : Type) where
  | add (key : κ) (value : ν)
  | addOverwrite (key : κ) (value : ν)
  | lookupOrAdd (key : κ) (value : ν) (change : ν → ν)
  | update (key : κ) (change : ν → ν)
  | pop (key : κ)
  | reserve (count : Int64)
  | clear
  | release

/-- What an operation answers: whether a key was new, a value found, or nothing. -/
inductive Answer (ν : Type) where
  | added (isNew : Bool)
  | value (found : Option ν)
  | done
  deriving DecidableEq

namespace Op

/-- Runs an operation on a map. -/
def run (provider : Provider σ) : Op κ ν → Mutation σ (HashMap κ ν) (Answer ν)
  | add key value => Answer.added <$> insert provider key value
  | addOverwrite key value => Answer.added <$> insertOrReplace provider key value
  | lookupOrAdd key value change => Answer.value <$> findOrInsert provider key value change
  | update key change => do
    let result := (← Mutation.container).modifyExisting key change
    Mutation.setContainer result.1
    pure (.value result.2)
  | pop key => do
    let result := (← Mutation.container).erase key
    Mutation.setContainer result.1
    pure (.value result.2)
  | reserve count => do
    HashMap.reserve provider count
    pure .done
  | clear => do
    HashMap.clear provider
    pure .done
  | release => do
    HashMap.release provider
    pure .done

/-- The answer and the entries of an operation on an association list. -/
def spec (equal : κ → κ → Bool) : Op κ ν → List (κ × ν) → Answer ν × List (κ × ν)
  | add key value, entries =>
    (.added (AssocList.add equal entries key value).2, (AssocList.add equal entries key value).1)
  | addOverwrite key value, entries =>
    (.added (AssocList.addOverwrite equal entries key value).2,
      (AssocList.addOverwrite equal entries key value).1)
  | lookupOrAdd key value change, entries =>
    (.value (AssocList.lookupOrAdd equal entries key value change).2,
      (AssocList.lookupOrAdd equal entries key value change).1)
  | update key change, entries =>
    (.value (AssocList.lookup equal entries key), AssocList.update equal entries key change)
  | pop key, entries => (.value (AssocList.lookup equal entries key), AssocList.erase equal entries key)
  | reserve _, entries => (.done, entries)
  | clear, _ => (.done, [])
  | release, _ => (.done, [])

/-- The sizing of the rebuild an operation may start on `map` stays within a word. -/
def Fits (map : HashMap κ ν) : Op κ ν → Prop
  | add .. | addOverwrite .. | lookupOrAdd .. => map.GrowthFits
  | reserve count => map.usable < count → map.loadFactor.SlotsFit (Int64.ofNat map.inlineSlots) count
  | update .. | pop _ | clear | release => True

/-- The list operations keep keys pairwise unequal. -/
theorem spec_distinct {equal : κ → κ → Bool} {entries : List (κ × ν)}
    (distinct : AssocList.Distinct equal entries) (op : Op κ ν) :
    AssocList.Distinct equal (op.spec equal entries).2 := by
  cases op with
  | add key value =>
    dsimp only [spec, AssocList.add]
    split
    · exact distinct
    · exact distinct.append_absent ‹_› value
  | addOverwrite key value =>
    dsimp only [spec, AssocList.addOverwrite]
    split
    · exact distinct.update key fun _ => value
    · exact distinct.append_absent ‹_› value
  | lookupOrAdd key value change =>
    dsimp only [spec, AssocList.lookupOrAdd]
    split
    · exact distinct.update key change
    · exact distinct.append_absent ‹_› (change value)
  | update key change => exact distinct.update key change
  | pop key => exact distinct.erase key
  | reserve _ => exact distinct
  | clear | release => exact List.Pairwise.nil

/-- On lists with pairwise unequal keys, the list operations do not depend on the order of the
entries: permuted entries give the same answer and permuted results. -/
theorem spec_perm {hasher : Hasher κ} (lawful : hasher.Lawful) {entries other : List (κ × ν)}
    (distinct : AssocList.Distinct hasher.equal entries) (perm : entries.Perm other) (op : Op κ ν) :
    (op.spec hasher.equal other).1 = (op.spec hasher.equal entries).1 ∧
      (op.spec hasher.equal other).2.Perm (op.spec hasher.equal entries).2 := by
  have lookups := AssocList.lookup_perm lawful distinct perm
  cases op with
  | add key value =>
    dsimp only [spec, AssocList.add]
    rw [lookups key]
    split
    · exact ⟨rfl, perm.symm⟩
    · exact ⟨rfl, perm.symm.append_right _⟩
  | addOverwrite key value =>
    dsimp only [spec, AssocList.addOverwrite]
    rw [lookups key]
    split
    · exact ⟨rfl, perm.symm.map _⟩
    · exact ⟨rfl, perm.symm.append_right _⟩
  | lookupOrAdd key value change =>
    dsimp only [spec, AssocList.lookupOrAdd]
    rw [lookups key]
    split
    · exact ⟨rfl, perm.symm.map _⟩
    · exact ⟨rfl, perm.symm.append_right _⟩
  | update key change => exact ⟨by rw [spec, spec, lookups key], perm.symm.map _⟩
  | pop key => exact ⟨by rw [spec, spec, lookups key], perm.symm.filter _⟩
  | reserve _ => exact ⟨rfl, perm.symm⟩
  | clear | release => exact ⟨rfl, List.Perm.refl _⟩

/-- One step: run on a well-formed map within its sizing bounds, an operation fails only with the
map unchanged, or leaves a well-formed map with the same setup that answers as the list operation
on its entries does and holds that operation's entries. -/
theorem run_ends (provider : Provider σ) {map : HashMap κ ν} (wellFormed : map.WellFormed)
    (lawful : map.hasher.Lawful) (valid : map.loadFactor.isValid) (op : Op κ ν) (fits : op.Fits map) :
    Mutation.Ends (op.run provider) map fun answer next =>
      next.WellFormed ∧ SameSetup map next ∧ answer = (op.spec map.hasher.equal map.entries).1 ∧
        next.entries.Perm (op.spec map.hasher.equal map.entries).2 := by
  cases op with
  | add key value =>
    refine (insert_ends provider wellFormed lawful valid fits key value).map ?_
    rintro _ _ ⟨changedWell, setup, answered, entries⟩
    exact ⟨changedWell, setup, by rw [answered]; rfl, entries⟩
  | addOverwrite key value =>
    refine (insertOrReplace_ends provider wellFormed lawful valid fits key value).map ?_
    rintro _ _ ⟨changedWell, setup, answered, entries⟩
    exact ⟨changedWell, setup, by rw [answered]; rfl, entries⟩
  | lookupOrAdd key value change =>
    refine (findOrInsert_ends provider wellFormed lawful valid fits key value change).map ?_
    rintro _ _ ⟨changedWell, setup, answered, entries⟩
    exact ⟨changedWell, setup, by rw [answered]; rfl, entries⟩
  | update key change =>
    obtain ⟨changedWell, setup, entries, answered⟩ := wellFormed.modifyExisting lawful key change
    refine Mutation.Ends.container_bind (Mutation.Returns.ends ?_)
    refine (Mutation.returns_setContainer _).bind ?_
    rintro _ _ rfl
    exact Mutation.returns_pure_of ⟨changedWell, setup, by rw [answered]; rfl, by rw [entries]; rfl⟩
  | pop key =>
    obtain ⟨removedWell, setup, entries, answered⟩ := wellFormed.erase lawful key
    refine Mutation.Ends.container_bind (Mutation.Returns.ends ?_)
    refine (Mutation.returns_setContainer _).bind ?_
    rintro _ _ rfl
    exact Mutation.returns_pure_of ⟨removedWell, setup, by rw [answered]; rfl, by rw [entries]; rfl⟩
  | reserve count =>
    refine (reserve_ends provider wellFormed lawful valid count fits).bind ?_
    rintro _ _ ⟨reservedWell, setup, entries⟩
    exact Mutation.returns_pure_of ⟨reservedWell, setup, rfl, entries⟩
  | clear =>
    refine ((clear_returns provider).bind ?_).ends
    rintro _ _ ⟨clearedWell, setup, entries⟩
    exact Mutation.returns_pure_of ⟨clearedWell, setup, rfl, by rw [entries]; rfl⟩
  | release =>
    refine ((release_returns provider).bind ?_).ends
    rintro _ _ ⟨releasedWell, setup, entries⟩
    exact Mutation.returns_pure_of ⟨releasedWell, setup, rfl, by rw [entries]; rfl⟩

/-- The entries after an operation: the list operation's when it succeeded, the same entries when
it failed. -/
def after (equal : κ → κ → Bool) (op : Op κ ν) (entries : List (κ × ν)) :
    Except Fault (Answer ν) → List (κ × ν)
  | .ok _ => (op.spec equal entries).2
  | .error _ => entries

end Op

/-- The states a run of operations reaches from the map `fresh`, each operation within its sizing
bounds, each with the association list that the same operations build from the empty list. -/
inductive Reaches (provider : Provider σ) (fresh : HashMap κ ν) :
    HashMap κ ν × σ → List (κ × ν) → Prop
  | start (storage : σ) : Reaches provider fresh (fresh, storage) []
  | step {state : HashMap κ ν × σ} {entries : List (κ × ν)} (op : Op κ ν) :
      Reaches provider fresh state entries → op.Fits state.1 →
      Reaches provider fresh ((op.run provider).run.run state).2
        (op.after fresh.hasher.equal entries ((op.run provider).run.run state).1)

/-- What a run keeps, by induction on the run: the map is well formed with the fresh map's
setup, and holds the entries of the list, whose keys are pairwise unequal. -/
theorem Reaches.invariant {provider : Provider σ} {fresh : HashMap κ ν} (freshWell : fresh.WellFormed)
    (freshEmpty : fresh.entries = []) (lawful : fresh.hasher.Lawful)
    (valid : fresh.loadFactor.isValid) {state : HashMap κ ν × σ} {entries : List (κ × ν)}
    (reaches : Reaches provider fresh state entries) :
    state.1.WellFormed ∧ SameSetup fresh state.1 ∧ state.1.entries.Perm entries ∧
      AssocList.Distinct fresh.hasher.equal entries := by
  induction reaches with
  | start storage => exact ⟨freshWell, SameSetup.refl fresh, by rw [freshEmpty], List.Pairwise.nil⟩
  | @step state entries op _ fits inductionHypothesis =>
    obtain ⟨wellFormed, setup, perm, distinct⟩ := inductionHypothesis
    obtain ⟨map, storage⟩ := state
    have mapLawful : map.hasher.Lawful := by rw [setup.1]; exact lawful
    have mapValid : map.loadFactor.isValid := by rw [setup.2.2.1]; exact valid
    have stepped := Op.run_ends provider wellFormed mapLawful mapValid op fits storage
    revert stepped
    rcases (op.run provider).run.run (map, storage) with ⟨_ | answer, next, rest⟩
    · -- a failed operation leaves the map and the list as they were
      rintro rfl
      exact ⟨wellFormed, setup, perm, distinct⟩
    · rintro ⟨nextWell, nextSetup, -, nextEntries⟩
      refine ⟨nextWell, setup.trans nextSetup, ?_, Op.spec_distinct distinct op⟩
      rw [setup.1] at nextEntries
      exact nextEntries.trans (Op.spec_perm lawful distinct perm.symm op).2

/-- Every hasher a map script names is lawful, and under a lawful hasher and a valid load factor a
map refines an association list along every run from a fresh map whose rebuilds size within a
word: the list's keys are pairwise unequal, the map holds exactly its entries and answers lookups
and membership as it does, and the next operation either fails with the map unchanged or answers
as the list's operation. -/
theorem reaches_refines_assocList :
    (∀ {kind : KeyKind} {name : String} {hasher : Hasher Key},
      Request.hasherOf kind name = .ok hasher → hasher.Lawful) ∧
    ∀ {hasher : Hasher κ} {probing : Probing} {loadFactor : LoadFactor} {slotSize : Nat}
      {accounted : Bool} {provider : Provider σ} {state : HashMap κ ν × σ}
      {entries : List (κ × ν)},
      hasher.Lawful → loadFactor.isValid →
      Reaches provider (empty hasher probing loadFactor slotSize accounted) state entries →
      AssocList.Distinct hasher.equal entries ∧ state.1.entries.Perm entries ∧
        (∀ key, state.1.get? key = AssocList.lookup hasher.equal entries key ∧
          state.1.contains key = (AssocList.lookup hasher.equal entries key).isSome) ∧
        ∀ op : Op κ ν, op.Fits state.1 →
          Mutation.Ends (op.run provider) state.1
            fun answer _ => answer = (op.spec hasher.equal entries).1 := by
  refine ⟨Request.hasherOf_lawful, ?_⟩
  intro hasher probing loadFactor slotSize accounted provider state entries lawful valid reaches
  obtain ⟨wellFormed, setup, perm, distinct⟩ :=
    reaches.invariant (wellFormed_empty hasher probing loadFactor slotSize accounted) rfl lawful valid
  have mapLawful : state.1.hasher.Lawful := by rw [setup.1]; exact lawful
  have mapValid : state.1.loadFactor.isValid := by rw [setup.2.2.1]; exact valid
  -- the map's entries are a permutation of the list's, so lookups in either agree
  have lookups : ∀ key, AssocList.lookup state.1.hasher.equal state.1.entries key =
      AssocList.lookup hasher.equal entries key := by
    intro key
    rw [setup.1]
    exact AssocList.lookup_perm lawful distinct perm.symm key
  refine ⟨distinct, perm, fun key => ⟨?_, ?_⟩, fun op fits => ?_⟩
  · rw [wellFormed.get?_eq mapLawful, lookups]
  · rw [wellFormed.contains_eq mapLawful, lookups]
  · refine (Op.run_ends provider wellFormed mapLawful mapValid op fits).mono ?_
    rintro answer _ ⟨-, -, answered, -⟩
    rw [answered, setup.1]
    exact (Op.spec_perm lawful distinct perm.symm op).1

/-- The run of one insertion into a fresh map of signed keys meets the hypotheses. -/
theorem reaches_refines_assocList_first_add :
    let hasher : Hasher Key := ⟨(KeyKind.signed 64).hash, (KeyKind.signed 64).equal⟩
    let provider : Provider Unit := ⟨fun _ _ storage => (.ok 0, storage), fun _ storage => storage⟩
    let fresh : HashMap Key Int64 := empty hasher Probing.standard LoadFactor.half 24 true
    let first : Op Key Int64 := .add (.integer 7) 1
    let ran := (first.run provider).run.run (fresh, ())
    let entries := first.after hasher.equal [] ran.1
    hasher.Lawful ∧ LoadFactor.half.isValid ∧ Reaches provider fresh ran.2 entries ∧
      (AssocList.Distinct hasher.equal entries ∧ ran.2.1.entries.Perm entries ∧
        (∀ key, ran.2.1.get? key = AssocList.lookup hasher.equal entries key ∧
          ran.2.1.contains key = (AssocList.lookup hasher.equal entries key).isSome) ∧
        ∀ op : Op Key Int64, op.Fits ran.2.1 →
          Mutation.Ends (op.run provider) ran.2.1
            fun answer _ => answer = (op.spec hasher.equal entries).1) := by
  intro hasher provider fresh first ran entries
  have lawful : hasher.Lawful := KeyKind.lawful (.signed 64)
  have valid : LoadFactor.half.isValid := by decide
  have fits : first.Fits fresh := by
    intro _
    unfold LoadFactor.SlotsFit LoadFactor.InWord LoadFactor.exactSlots LoadFactor.slotsNeeded
      LoadFactor.ceilPowerOfTwo
    decide
  have reaches : Reaches provider fresh ran.2 entries := Reaches.step first (Reaches.start ()) fits
  exact ⟨lawful, valid, reaches, reaches_refines_assocList.2 lawful valid reaches⟩

end HashMap

end HeapKit
