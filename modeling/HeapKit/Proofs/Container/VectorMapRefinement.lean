import Mathlib
import HeapKit.Container.VectorMap
import HeapKit.Proofs.HashMap.Refinement
import HeapKit.Proofs.Container.VectorRefinement

/-!
# Vector maps refine insertion-ordered lists

A vector map stands for a list of entries in insertion order (`VectorMap.Represents`): its values
vector holds the entries' values in order, its index is a well-formed map whose entries are each
key with its position in the list (`positions`), so that it maps the keys one to one onto the
positions below the length, and the keys are pairwise unequal and each equal to itself.

Lookups, membership, the values by position and the entries rebuilt from the index all answer as
the list does. An addition appends exactly when no key is equal to the new one. When appending the
value is refused, the key, already in the index, is taken out again: the tombstone it leaves
changes no entry of the index, so the map still stands for the list it stood for.

The run is a fold of one step lemma, `Op.run_settles`, with one case per operation.
-/

namespace HeapKit

namespace Vector

variable {α : Type} [Inhabited α] {vector : Vector α} {items : List α}

theorem Holds.get_eq (holds : vector.Holds items) {position : Nat} (inside : position < items.length) :
    vector.get position = .ok items[position] := by
  unfold Vector.get
  rw [holds.items_eq]
  simp only [bind, Except.bind]
  rw [Bounds.index_eq_ok (by positivity) (by exact_mod_cast inside), Int.toNat_natCast]
  simp [inside]

end Vector

namespace HashMap

variable {κ ν : Type}

theorem length_entries_le_size (map : HashMap κ ν) : map.entries.length ≤ map.slots.size := by
  rw [entries_eq_entriesOf, entriesOf, ← Array.length_toList]
  exact List.length_filterMap_le _ _

end HashMap

namespace AssocList

variable {κ ν : Type} {hasher : Hasher κ}

/-- A key equal to itself, appended after entries none of whose keys is equal to it, is the only
entry that removing it drops. -/
theorem erase_append_absent {entries : List (κ × ν)} {key : κ}
    (absent : lookup hasher.equal entries key = none) (reflexive : hasher.equal key key = true)
    (value : ν) : erase hasher.equal (entries ++ [(key, value)]) key = entries := by
  unfold erase
  rw [List.filter_append, ← erase, erase_of_lookup_eq_none absent, List.filter_singleton]
  simp [reflexive]

theorem add_of_lookup_eq_some {equal : κ → κ → Bool} {entries : List (κ × ν)} {key : κ} {old : ν}
    (present : lookup equal entries key = some old) (value : ν) :
    add equal entries key value = (entries, false) := by
  rw [add, present]

theorem add_of_lookup_eq_none {equal : κ → κ → Bool} {entries : List (κ × ν)} {key : κ}
    (absent : lookup equal entries key = none) (value : ν) :
    add equal entries key value = (entries ++ [(key, value)], true) := by
  rw [add, absent]

variable (lawful : hasher.Lawful)
include lawful

/-- In a distinct list, only one position holds a key equal to a given key. -/
theorem Distinct.unequal_of_ne {entries : List (κ × ν)} (distinct : Distinct hasher.equal entries)
    {first second : Nat} (firstInside : first < entries.length) (secondInside : second < entries.length)
    (different : first ≠ second) {key : κ} (firstEqual : hasher.equal entries[first].1 key = true) :
    hasher.equal entries[second].1 key = false := by
  cases secondEqual : hasher.equal entries[second].1 key
  · rfl
  · have related := lawful.trans firstEqual (lawful.symm secondEqual)
    rcases Nat.lt_or_gt_of_ne different with before | after
    · rw [List.pairwise_iff_getElem.mp distinct first second firstInside secondInside before] at related
      cases related
    · have reversed := lawful.symm related
      rw [List.pairwise_iff_getElem.mp distinct second first secondInside firstInside after]
        at reversed
      cases reversed

/-- Changing the value of a key in a distinct list changes the one entry at the key's position. -/
theorem update_eq_set {entries : List (κ × ν)} (distinct : Distinct hasher.equal entries)
    {position : Nat} (inside : position < entries.length) {key : κ}
    (equal : hasher.equal entries[position].1 key = true) (change : ν → ν) :
    update hasher.equal entries key change =
      entries.set position (entries[position].1, change entries[position].2) := by
  refine List.ext_getElem (by simp [update]) fun index updatedInside setInside => ?_
  simp only [update, List.getElem_map, List.getElem_set]
  by_cases same : position = index
  · subst same
    simp [equal]
  · have indexInside : index < entries.length := by simpa [update] using updatedInside
    rw [if_neg same, distinct.unequal_of_ne lawful inside indexInside same equal]
    rfl

end AssocList

namespace VectorMap

variable {κ ν σ : Type}

/-! ### The index of a list -/

/-- The entries of the index of a list: each key with its position. -/
def positions (pairs : List (κ × ν)) : List (κ × Int64) :=
  (pairs.map Prod.fst).mapIdx fun position key => (key, Int64.ofNat position)

@[simp] theorem length_positions (pairs : List (κ × ν)) : (positions pairs).length = pairs.length := by
  simp [positions]

theorem mem_positions {pairs : List (κ × ν)} {entry : κ × Int64} :
    entry ∈ positions pairs ↔
      ∃ (position : Nat) (inside : position < pairs.length),
        entry = (pairs[position].1, Int64.ofNat position) := by
  simp [positions, List.mem_mapIdx, eq_comm]

theorem positions_append (pairs : List (κ × ν)) (key : κ) (value : ν) :
    positions (pairs ++ [(key, value)]) = positions pairs ++ [(key, Int64.ofNat pairs.length)] := by
  simp [positions, List.mapIdx_concat]

theorem positions_of_keys {pairs other : List (κ × ν)}
    (sameKeys : other.map Prod.fst = pairs.map Prod.fst) : positions other = positions pairs := by
  unfold positions
  rw [sameKeys]

theorem exists_position_of_lookup {pairs : List (κ × ν)} {equal : κ → κ → Bool} {key : κ}
    {value : ν} (found : AssocList.lookup equal pairs key = some value) :
    ∃ (position : Nat) (inside : position < pairs.length),
      equal pairs[position].1 key = true ∧ pairs[position].2 = value := by
  obtain ⟨stored, member, equal⟩ := AssocList.exists_of_lookup_eq_some found
  obtain ⟨position, inside, atPosition⟩ := List.getElem_of_mem member
  exact ⟨position, inside, by rw [atPosition]; exact equal, by rw [atPosition]⟩

/-- Placing the keys of a list at their positions, in order, writes them over the zero keys. -/
theorem foldl_place_positions [Inhabited κ] (pairs : List (κ × ν)) {count : Nat}
    (fits : pairs.length ≤ count) (word : count ≤ 2 ^ 62) :
    (positions pairs).foldl (fun keys (entry : κ × Int64) =>
        if entry.2.toInt < 0 then keys else keys.set! entry.2.toInt.toNat entry.1)
      (Array.replicate count default) =
      (pairs.map Prod.fst ++ List.replicate (count - pairs.length) default).toArray := by
  induction pairs using List.reverseRecOn with
  | nil => simp [positions]
  | append_singleton front last inductionHypothesis =>
    rw [List.length_append, List.length_singleton] at fits
    have small : (Int64.ofNat front.length).toInt = front.length :=
      Int64.toInt_ofNat_of_lt (by omega)
    -- the new key goes to the first zero key, right after the keys before it
    obtain ⟨rest, more⟩ : ∃ rest, count - front.length = rest + 1 :=
      ⟨_, (Nat.succ_pred_eq_of_pos (by omega)).symm⟩
    rw [← Prod.mk.eta (p := last), positions_append, List.foldl_append,
      inductionHypothesis (by omega), List.foldl_cons, List.foldl_nil, small,
      if_neg (by omega), Int.toNat_natCast, Array.set!_eq_setIfInBounds, List.setIfInBounds_toArray,
      List.set_append_right _ _ (by simp), List.length_map, Nat.sub_self, more, List.replicate_succ,
      List.set_cons_zero]
    simp [show count - (front.length + 1) = rest by omega]

/-- The positions of a list are distinct, so placing its keys does not depend on the order. -/
theorem foldl_place_perm {entries : List (κ × Int64)} {pairs : List (κ × ν)}
    (perm : entries.Perm (positions pairs)) (word : pairs.length ≤ 2 ^ 62) (keys : Array κ) :
    entries.foldl (fun keys (entry : κ × Int64) =>
        if entry.2.toInt < 0 then keys else keys.set! entry.2.toInt.toNat entry.1) keys =
      (positions pairs).foldl (fun keys (entry : κ × Int64) =>
        if entry.2.toInt < 0 then keys else keys.set! entry.2.toInt.toNat entry.1) keys := by
  refine perm.foldl_eq' ?_ keys
  intro first firstMember second secondMember placed
  obtain ⟨firstPosition, firstInside, rfl⟩ := mem_positions.mp (perm.subset firstMember)
  obtain ⟨secondPosition, secondInside, rfl⟩ := mem_positions.mp (perm.subset secondMember)
  have firstSmall : (Int64.ofNat firstPosition).toInt = firstPosition :=
    Int64.toInt_ofNat_of_lt (by omega)
  have secondSmall : (Int64.ofNat secondPosition).toInt = secondPosition :=
    Int64.toInt_ofNat_of_lt (by omega)
  simp only [firstSmall, secondSmall, Int.natCast_nonneg, not_lt.mpr, if_false, Int.toNat_natCast,
    Array.set!_eq_setIfInBounds]
  by_cases same : firstPosition = secondPosition
  · subst same
    rfl
  · exact Array.setIfInBounds_comm _ _ same


/-! ### Running on one part -/

section Parts

variable {α : Type} {storage : σ} {refused : Fault → Prop}

theorem runsTo_onIndex {index : HashMap κ Int64} {values : Vector ν}
    {inner : Mutation σ (HashMap κ Int64) α} {post : α → HashMap κ Int64 → Prop}
    (runs : Mutation.RunsTo inner index storage refused post) :
    Mutation.RunsTo (onIndex inner) ⟨index, values⟩ storage refused
      fun answer next => ∃ changed, post answer changed ∧ next = ⟨changed, values⟩ :=
  runs.focus rfl

theorem runsTo_onValues {index : HashMap κ Int64} {values : Vector ν}
    {inner : Mutation σ (Vector ν) α} {post : α → Vector ν → Prop}
    (runs : Mutation.RunsTo inner values storage refused post) :
    Mutation.RunsTo (onValues inner) ⟨index, values⟩ storage refused
      fun answer next => ∃ changed, post answer changed ∧ next = ⟨index, changed⟩ :=
  runs.focus rfl

theorem returns_onIndex {index : HashMap κ Int64} {values : Vector ν}
    {inner : Mutation σ (HashMap κ Int64) α} {post : α → HashMap κ Int64 → Prop}
    (returns : Mutation.Returns inner index post) :
    Mutation.Returns (onIndex inner) ⟨index, values⟩
      fun answer next => ∃ changed, post answer changed ∧ next = ⟨changed, values⟩ := by
  intro storage
  obtain ⟨answer, changed, rest, ran, holds⟩ := returns storage
  exact ⟨answer, ⟨changed, values⟩, rest, by simp only [onIndex, Mutation.run_focus, ran],
    changed, holds, rfl⟩

theorem returns_onValues {index : HashMap κ Int64} {values : Vector ν}
    {inner : Mutation σ (Vector ν) α} {post : α → Vector ν → Prop}
    (returns : Mutation.Returns inner values post) :
    Mutation.Returns (onValues inner) ⟨index, values⟩
      fun answer next => ∃ changed, post answer changed ∧ next = ⟨index, changed⟩ := by
  intro storage
  obtain ⟨answer, changed, rest, ran, holds⟩ := returns storage
  exact ⟨answer, ⟨index, changed⟩, rest, by simp only [onValues, Mutation.run_focus, ran],
    changed, holds, rfl⟩

end Parts

variable [Inhabited ν]

/-- A vector map stands for `pairs` under `hasher`: the index uses the hasher and a valid load
factor, it is well formed and its entries are each key with its position; the values vector holds
the values in order; and the keys are pairwise unequal and each equal to itself. -/
structure Represents (hasher : Hasher κ) (map : VectorMap κ ν) (pairs : List (κ × ν)) : Prop where
  hasherIs : map.index.hasher = hasher
  valid : map.index.loadFactor.isValid
  indexWell : map.index.WellFormed
  positioned : map.index.entries.Perm (positions pairs)
  values : map.values.Holds (pairs.map Prod.snd)
  distinct : AssocList.Distinct hasher.equal pairs
  reflexive : ∀ key ∈ pairs.map Prod.fst, hasher.equal key key = true

section Represents

variable {hasher : Hasher κ} {map : VectorMap κ ν} {pairs : List (κ × ν)}

/-- A map with the index setup of one that stands for a list, whose parts hold `next`'s entries,
stands for them. -/
theorem Represents.carry (represents : map.Represents hasher pairs) {changed : VectorMap κ ν}
    {next : List (κ × ν)} (setup : HashMap.SameSetup map.index changed.index)
    (indexWell : changed.index.WellFormed) (positioned : changed.index.entries.Perm (positions next))
    (values : changed.values.Holds (next.map Prod.snd)) (distinct : AssocList.Distinct hasher.equal next)
    (reflexive : ∀ key ∈ next.map Prod.fst, hasher.equal key key = true) :
    changed.Represents hasher next :=
  ⟨setup.1.trans represents.hasherIs, setup.2.2.1 ▸ represents.valid, indexWell, positioned, values,
    distinct, reflexive⟩

/-- The index holds one entry for each element of the list, in a table of at most `2 ^ 62` slots. -/
theorem Represents.length_le (represents : map.Represents hasher pairs) : pairs.length ≤ 2 ^ 62 := by
  have counted := represents.positioned.length_eq
  have fewer := HashMap.length_entries_le_size map.index
  have bounded := represents.indexWell.shaped.size_le
  rw [length_positions] at counted
  omega

theorem Represents.length_eq (represents : map.Represents hasher pairs) : map.length = pairs.length := by
  rw [VectorMap.length, represents.values.1, List.length_map]

theorem toInt_ofNat_position (represents : map.Represents hasher pairs) {position : Nat}
    (inside : position < pairs.length) : (Int64.ofNat position).toInt = position := by
  have bounded := represents.length_le
  exact Int64.toInt_ofNat_of_lt (by omega)

/-- A key equal to a stored key is found in the index at that key's position. -/
theorem Represents.lookup_index_of_equal (represents : map.Represents hasher pairs)
    (lawful : hasher.Lawful) {position : Nat} (inside : position < pairs.length) {key : κ}
    (equal : hasher.equal pairs[position].1 key = true) :
    AssocList.lookup hasher.equal map.index.entries key = some (Int64.ofNat position) := by
  have distinct := represents.indexWell.distinct
  rw [represents.hasherIs] at distinct
  exact AssocList.lookup_eq_some_of_mem lawful distinct
    (represents.positioned.symm.subset (mem_positions.mpr ⟨position, inside, rfl⟩)) equal

/-- A key equal to no stored key is not in the index. -/
theorem Represents.lookup_index_eq_none (represents : map.Represents hasher pairs) {key : κ}
    (absent : AssocList.lookup hasher.equal pairs key = none) :
    AssocList.lookup hasher.equal map.index.entries key = none := by
  rw [AssocList.lookup_eq_none_iff] at absent ⊢
  intro entry member
  obtain ⟨position, inside, rfl⟩ := mem_positions.mp (represents.positioned.subset member)
  exact absent _ (List.getElem_mem inside)

/-- An index that gained a new key at the next position, with the values grown by the key's
value, stands for the list with the entry appended. -/
theorem Represents.append (represents : map.Represents hasher pairs) {inserted : HashMap κ Int64}
    {values : Vector ν} {key : κ} {value : ν} (setup : HashMap.SameSetup map.index inserted)
    (insertedWell : inserted.WellFormed)
    (entries : inserted.entries.Perm (map.index.entries ++ [(key, Int64.ofNat pairs.length)]))
    (grown : values.Holds (pairs.map Prod.snd ++ [value]))
    (absent : AssocList.lookup hasher.equal pairs key = none)
    (reflexive : hasher.equal key key = true) :
    Represents hasher ⟨inserted, values⟩ (pairs ++ [(key, value)]) := by
  refine represents.carry setup insertedWell ?_ (by rw [List.map_append]; exact grown)
    (represents.distinct.append_absent absent value) ?_
  · rw [positions_append]
    exact entries.trans (represents.positioned.append_right _)
  · intro stored member
    rw [List.map_append, List.mem_append, List.map_singleton, List.mem_singleton] at member
    rcases member with old | rfl
    · exact represents.reflexive stored old
    · exact reflexive

variable (lawful : hasher.Lawful)
include lawful

/-- Every stored key is found in the index at its position: the index maps the keys one to one
onto the positions below the length. -/
theorem Represents.index_get? (represents : map.Represents hasher pairs) {position : Nat}
    (inside : position < pairs.length) :
    map.index.get? pairs[position].1 = some (Int64.ofNat position) := by
  rw [represents.indexWell.get?_eq (represents.hasherIs ▸ lawful), represents.hasherIs]
  exact represents.lookup_index_of_equal lawful inside
    (represents.reflexive _ (List.mem_map_of_mem (List.getElem_mem inside)))

/-- A lookup answers the value of the entry whose key is equal to the one asked for. -/
theorem Represents.get?_eq (represents : map.Represents hasher pairs) (key : κ) :
    map.get? key = .ok (AssocList.lookup hasher.equal pairs key) := by
  unfold VectorMap.get?
  rw [represents.indexWell.get?_eq (represents.hasherIs ▸ lawful), represents.hasherIs]
  cases found : AssocList.lookup hasher.equal pairs key with
  | none => rw [represents.lookup_index_eq_none found]
  | some value =>
    obtain ⟨position, inside, equal, rfl⟩ := exists_position_of_lookup found
    rw [represents.lookup_index_of_equal lawful inside equal]
    dsimp only
    rw [toInt_ofNat_position represents inside,
      represents.values.get_eq (by rw [List.length_map]; exact inside)]
    simp only [List.getElem_map]
    rfl

theorem Represents.contains_eq (represents : map.Represents hasher pairs) (key : κ) :
    map.index.contains key = (AssocList.lookup hasher.equal pairs key).isSome := by
  rw [represents.indexWell.contains_eq (represents.hasherIs ▸ lawful), represents.hasherIs]
  cases found : AssocList.lookup hasher.equal pairs key with
  | none => rw [represents.lookup_index_eq_none found]; rfl
  | some value =>
    obtain ⟨position, inside, equal, -⟩ := exists_position_of_lookup found
    rw [represents.lookup_index_of_equal lawful inside equal]
    rfl

/-- Writing the value of a present key changes that entry's value in place, and answers the value
before; an absent key changes nothing. -/
theorem Represents.replace_eq (represents : map.Represents hasher pairs) (key : κ) (value : ν) :
    ∃ next, map.replace key value = .ok (next, AssocList.lookup hasher.equal pairs key) ∧
      next.Represents hasher (AssocList.update hasher.equal pairs key fun _ => value) := by
  unfold VectorMap.replace
  rw [represents.indexWell.get?_eq (represents.hasherIs ▸ lawful), represents.hasherIs]
  cases found : AssocList.lookup hasher.equal pairs key with
  | none =>
    rw [represents.lookup_index_eq_none found, AssocList.update_of_lookup_eq_none found]
    exact ⟨map, rfl, represents⟩
  | some old =>
    obtain ⟨position, inside, equal, rfl⟩ := exists_position_of_lookup found
    have valuesInside : position < (pairs.map Prod.snd).length := by
      rw [List.length_map]
      exact inside
    rw [represents.lookup_index_of_equal lawful inside equal]
    dsimp only
    rw [toInt_ofNat_position represents inside, represents.values.get_eq valuesInside,
      represents.values.set_eq valuesInside value, List.getElem_map]
    refine ⟨_, rfl, ?_⟩
    -- the entry at the key's position is the only one changed, and its key stays
    have updated := AssocList.update_eq_set lawful represents.distinct inside equal fun _ => value
    have sameKeys : (AssocList.update hasher.equal pairs key fun _ => value).map Prod.fst =
        pairs.map Prod.fst := by
      have keysInside : position < (pairs.map Prod.fst).length := by simpa using inside
      have keyAt : (pairs.map Prod.fst)[position] = pairs[position].1 := List.getElem_map _
      rw [updated, List.map_set, ← keyAt, List.set_getElem_self]
    refine represents.carry (HashMap.SameSetup.refl _) represents.indexWell ?_ ?_
      (represents.distinct.update key _) (sameKeys ▸ represents.reflexive)
    · rw [positions_of_keys sameKeys]
      exact represents.positioned
    · rw [updated, List.map_set]
      exact represents.values.set valuesInside value rfl rfl

/-- Taking a key that was just added back out of the index leaves a tombstone that drops only
that key's entry: with the values as they were, the map stands for the list before the
addition. -/
theorem Represents.erase_added (represents : map.Represents hasher pairs)
    {inserted : HashMap κ Int64} {key : κ} {position : Int64}
    (setup : HashMap.SameSetup map.index inserted) (insertedWell : inserted.WellFormed)
    (entries : inserted.entries.Perm (map.index.entries ++ [(key, position)]))
    (absent : AssocList.lookup hasher.equal pairs key = none)
    (reflexive : hasher.equal key key = true) :
    Represents hasher ⟨(inserted.erase key).1, map.values⟩ pairs := by
  have insertedLawful : inserted.hasher.Lawful := by rw [setup.1, represents.hasherIs]; exact lawful
  obtain ⟨erasedWell, erasedSetup, erased, -⟩ := insertedWell.erase insertedLawful key
  rw [setup.1, represents.hasherIs] at erased
  refine represents.carry (setup.trans erasedSetup) erasedWell ?_ represents.values
    represents.distinct represents.reflexive
  -- the other keys are unequal to the key, and the key is equal to itself
  rw [erased]
  refine ((entries.filter _).trans ?_).trans represents.positioned
  rw [← AssocList.erase, AssocList.erase_append_absent (represents.lookup_index_eq_none absent)
    reflexive]

end Represents


/-! ### The entries in insertion order -/

section Listing

variable [Inhabited κ] {hasher : Hasher κ} {map : VectorMap κ ν} {pairs : List (κ × ν)}

/-- The entries rebuilt from the index are the list: each key goes to its position, next to the
value there. -/
theorem Represents.entries_eq (represents : map.Represents hasher pairs) : map.entries = .ok pairs := by
  have word := represents.length_le
  unfold VectorMap.entries
  dsimp only
  rw [foldl_place_perm represents.positioned word, represents.length_eq, Int.toNat_natCast,
    foldl_place_positions pairs le_rfl word, represents.values.items_eq]
  simp only [bind, Except.bind, Nat.sub_self, List.replicate_zero, List.append_nil,
    ← List.unzip_fst, ← List.unzip_snd, List.zip_unzip]

end Listing

/-! ### One operation -/

section Steps

variable (slots values : Provider σ) {hasher : Hasher κ} {map : VectorMap κ ν}
  {pairs : List (κ × ν)} (represents : map.Represents hasher pairs) (lawful : hasher.Lawful)
include represents lawful

omit lawful in
/-- Appending the value once the index holds the new key at the next position: the map stands
for the list with the new entry, and a refused append leaves the container as it was. -/
theorem push_settles {inserted : HashMap κ Int64} {key : κ} (value : ν)
    (setup : HashMap.SameSetup map.index inserted) (insertedWell : inserted.WellFormed)
    (entries : inserted.entries.Perm (map.index.entries ++ [(key, Int64.ofNat pairs.length)]))
    (absent : AssocList.lookup hasher.equal pairs key = none) (reflexive : hasher.equal key key = true) :
    Mutation.Settles
      (do onValues (Vector.push values value); pure true : Mutation σ (VectorMap κ ν) Bool)
      ⟨inserted, map.values⟩ (fun next => next = ⟨inserted, map.values⟩)
      fun added next => added = true ∧ next.Represents hasher (pairs ++ [(key, value)]) := by
  refine Mutation.RunsTo.settles (fun storage => Mutation.RunsTo.bind
    (runsTo_onValues (Vector.push_runsTo values storage represents.values value)) ?_) rfl
  rintro _ _ ⟨grown, ⟨grownHolds, -⟩, rfl⟩
  exact Mutation.returns_pure_of
    ⟨rfl, represents.append setup insertedWell entries grownHolds absent reflexive⟩

/-- An addition answers and leaves what the list's addition gives. It fails only while obtaining
storage: for the index, which leaves the map as it was, or for the value, after which the key is
taken out of the index again and the map still stands for the list. -/
theorem insert_settles (key : κ) (value : ν) (fits : map.index.GrowthFits)
    (reflexive : hasher.equal key key = true) :
    Mutation.Settles (insert slots values key value) map (fun next => next.Represents hasher pairs)
      fun added next => added = (AssocList.add hasher.equal pairs key value).2 ∧
        next.Represents hasher (AssocList.add hasher.equal pairs key value).1 := by
  have indexLawful : map.index.hasher.Lawful := represents.hasherIs ▸ lawful
  have indexed := HashMap.insert_ends slots represents.indexWell indexLawful represents.valid fits
    key (Int64.ofInt map.length)
  have lengthEq : Int64.ofInt map.length = Int64.ofNat pairs.length := by
    rw [represents.length_eq, Int64.ofInt_eq_ofNat]
  unfold insert
  refine Mutation.Settles.container_bind (Mutation.Settles.bind
    (Mutation.RunsTo.settles (fun storage => runsTo_onIndex (indexed.runsTo storage)) represents) ?_)
  rintro added _ ⟨inserted, ⟨insertedWell, setup, answered, entries⟩, rfl⟩
  rw [represents.hasherIs, lengthEq] at answered entries
  cases found : AssocList.lookup hasher.equal pairs key with
  | some old =>
    -- a present key: the index answers that it was there and keeps its entries
    obtain ⟨position, inside, equal, -⟩ := exists_position_of_lookup found
    rw [AssocList.add_of_lookup_eq_some (represents.lookup_index_of_equal lawful inside equal)]
      at answered entries
    subst answered
    rw [AssocList.add_of_lookup_eq_some found]
    exact Mutation.Returns.settles (Mutation.returns_pure_of ⟨rfl, represents.carry setup insertedWell
      (entries.trans represents.positioned) represents.values represents.distinct represents.reflexive⟩)
  | none =>
    -- a new key: the index holds it at the next position, and the value is appended
    rw [AssocList.add_of_lookup_eq_none (represents.lookup_index_eq_none found)] at answered entries
    subst answered
    rw [AssocList.add_of_lookup_eq_none found]
    refine (push_settles values represents value setup insertedWell entries found reflexive).tryCatch ?_
    -- the refused value: the key is taken out of the index again
    rintro fault _ rfl
    refine Mutation.Settles.bind (Mutation.returns_modifyContainer _).settles ?_
    rintro _ _ rfl
    exact Mutation.settles_throw fault
      (represents.erase_added lawful setup insertedWell entries found reflexive)

/-- Reserving room grows the values, then the index; either may be refused its storage, and the
map stands for the same list whatever happens. -/
theorem reserve_settles (count : Int64)
    (fits : map.index.usable < count →
      map.index.loadFactor.SlotsFit (Int64.ofNat map.index.inlineSlots) count) :
    Mutation.Settles (reserve slots values count) map (fun next => next.Represents hasher pairs)
      fun _ next => next.Represents hasher pairs := by
  have indexLawful : map.index.hasher.Lawful := represents.hasherIs ▸ lawful
  have indexed := HashMap.reserve_ends slots represents.indexWell indexLawful represents.valid
    count fits
  unfold reserve
  refine Mutation.Settles.bind (Mutation.RunsTo.settles (fun storage =>
    runsTo_onValues (Vector.reserve_runsTo values storage represents.values count.toInt))
    represents) ?_
  rintro _ _ ⟨grown, ⟨grownHolds, -⟩, rfl⟩
  have grownRepresents : Represents hasher ⟨map.index, grown⟩ pairs :=
    represents.carry (HashMap.SameSetup.refl _) represents.indexWell represents.positioned grownHolds
      represents.distinct represents.reflexive
  refine Mutation.Settles.mono (Mutation.RunsTo.settles
    (fun storage => runsTo_onIndex (indexed.runsTo storage)) grownRepresents) ?_
  rintro _ _ ⟨reserved, ⟨reservedWell, setup, entries⟩, rfl⟩
  exact represents.carry setup reservedWell (entries.trans represents.positioned) grownHolds
    represents.distinct represents.reflexive

omit lawful in
/-- Releasing always succeeds and leaves an empty map. -/
theorem release_returns :
    Mutation.Returns (release slots values) map fun _ next => next.Represents hasher [] := by
  unfold release
  refine Mutation.Returns.bind (returns_onValues (Vector.returns_release values)) ?_
  rintro _ _ ⟨released, rfl, rfl⟩
  refine (returns_onIndex (HashMap.release_returns slots)).mono ?_
  rintro _ _ ⟨cleared, ⟨clearedWell, setup, entries⟩, rfl⟩
  refine represents.carry setup clearedWell (by rw [entries]; rfl) (Vector.holds_empty _ _)
    List.Pairwise.nil (fun _ member => nomatch member)

end Steps

/-! ### Operations and lists -/

/-- An operation on a vector map as a caller issues it: an addition, a write through the value of
a key, and the storage operations. -/
inductive Op (κ ν : Type) where
  | add (key : κ) (value : ν)
  | write (key : κ) (value : ν)
  | reserve (count : Int64)
  | release

namespace Op

/-- Runs an operation on a vector map; it answers as a map operation does. -/
def run (slots values : Provider σ) : Op κ ν → Mutation σ (VectorMap κ ν) (HashMap.Answer ν)
  | add key value => HashMap.Answer.added <$> insert slots values key value
  | write key value => do
    let (map, old) ← Mutation.check ((← Mutation.container).replace key value)
    Mutation.setContainer map
    pure (.value old)
  | reserve count => do
    VectorMap.reserve slots values count
    pure .done
  | release => do
    VectorMap.release slots values
    pure .done

/-- The answer and the entries of an operation on an insertion-ordered list. -/
def spec (equal : κ → κ → Bool) : Op κ ν → List (κ × ν) → HashMap.Answer ν × List (κ × ν)
  | add key value, pairs =>
    (.added (AssocList.add equal pairs key value).2, (AssocList.add equal pairs key value).1)
  | write key value, pairs =>
    (.value (AssocList.lookup equal pairs key), AssocList.update equal pairs key fun _ => value)
  | reserve _, pairs => (.done, pairs)
  | release, _ => (.done, [])

/-- The bounds of an operation on `map`: the sizing of a rebuild of the index it may start stays
within a word, and a key it adds is equal to itself. -/
def Allowed (map : VectorMap κ ν) : Op κ ν → Prop
  | add key _ => map.index.GrowthFits ∧ map.index.hasher.equal key key = true
  | reserve count =>
    map.index.usable < count → map.index.loadFactor.SlotsFit (Int64.ofNat map.index.inlineSlots) count
  | write .. | release => True

/-- One step: an operation within its bounds on a map that stands for `pairs` answers as the list
operation and leaves a map that stands for its result, or fails and leaves a map that still stands
for `pairs`. -/
theorem run_settles (slots values : Provider σ) {hasher : Hasher κ} {map : VectorMap κ ν}
    {pairs : List (κ × ν)} (represents : map.Represents hasher pairs) (lawful : hasher.Lawful)
    (op : Op κ ν) (allowed : op.Allowed map) :
    Mutation.Settles (op.run slots values) map (fun next => next.Represents hasher pairs)
      fun answer next => answer = (op.spec hasher.equal pairs).1 ∧
        next.Represents hasher (op.spec hasher.equal pairs).2 := by
  cases op with
  | add key value =>
    obtain ⟨fits, reflexive⟩ := allowed
    rw [represents.hasherIs] at reflexive
    refine (insert_settles slots values represents lawful key value fits reflexive).map ?_
    rintro _ _ ⟨answered, holds⟩
    exact ⟨by rw [answered]; rfl, holds⟩
  | write key value =>
    obtain ⟨next, replaced, holds⟩ := represents.replace_eq lawful key value
    refine Mutation.Returns.settles (Mutation.Returns.container_bind ?_)
    rw [replaced, Mutation.check_ok, pure_bind]
    refine (Mutation.returns_setContainer _).bind ?_
    rintro _ _ rfl
    exact Mutation.returns_pure_of ⟨rfl, holds⟩
  | reserve count =>
    refine Mutation.Settles.bind (reserve_settles slots values represents lawful count allowed) ?_
    intro _ next holds
    exact Mutation.Returns.settles (Mutation.returns_pure_of ⟨rfl, holds⟩)
  | release =>
    refine Mutation.Returns.settles (Mutation.Returns.bind (release_returns slots values represents) ?_)
    intro _ next holds
    exact Mutation.returns_pure_of ⟨rfl, holds⟩

/-- The list after an operation: the list operation's result when it succeeded, the same list when
it failed. -/
def after (equal : κ → κ → Bool) (op : Op κ ν) (pairs : List (κ × ν)) :
    Except Fault (HashMap.Answer ν) → List (κ × ν)
  | .ok _ => (op.spec equal pairs).2
  | .error _ => pairs

end Op

/-! ### Runs of operations -/

/-- The states a run of operations reaches from the vector map `fresh`, each operation within its
bounds, with the list the same operations build from the empty list. -/
inductive Reaches (slots values : Provider σ) (fresh : VectorMap κ ν) :
    VectorMap κ ν × σ → List (κ × ν) → Prop
  | start (storage : σ) : Reaches slots values fresh (fresh, storage) []
  | step {state : VectorMap κ ν × σ} {pairs : List (κ × ν)} (op : Op κ ν) :
      Reaches slots values fresh state pairs → op.Allowed state.1 →
      Reaches slots values fresh ((op.run slots values).run.run state).2
        (op.after fresh.index.hasher.equal pairs ((op.run slots values).run.run state).1)

/-- A fresh vector map stands for the empty list. -/
theorem represents_empty (hasher : Hasher κ) (probing : Probing) {loadFactor : LoadFactor}
    (valid : loadFactor.isValid) (slotSize elementSize : Nat) (indexAccounted valuesAccounted : Bool) :
    Represents hasher (⟨HashMap.empty hasher probing loadFactor slotSize indexAccounted,
      Vector.empty elementSize valuesAccounted⟩ : VectorMap κ ν) [] :=
  ⟨rfl, valid, HashMap.wellFormed_empty hasher probing loadFactor slotSize indexAccounted,
    List.Perm.refl _, Vector.holds_empty elementSize valuesAccounted, List.Pairwise.nil,
    fun _ member => nomatch member⟩

/-- Along every run the map stands for the list, by induction on the run: each operation is its
step lemma, whether it succeeds or fails. -/
theorem Reaches.represents {slots values : Provider σ} {fresh : VectorMap κ ν} {hasher : Hasher κ}
    (freshRepresents : fresh.Represents hasher []) (lawful : hasher.Lawful)
    {state : VectorMap κ ν × σ} {pairs : List (κ × ν)} (reaches : Reaches slots values fresh state pairs) :
    state.1.Represents hasher pairs := by
  induction reaches with
  | start storage => exact freshRepresents
  | @step state pairs op _ allowed inductionHypothesis =>
    obtain ⟨map, storage⟩ := state
    have settled := Op.run_settles slots values inductionHypothesis lawful op allowed storage
    rw [freshRepresents.hasherIs]
    revert settled
    rcases (op.run slots values).run.run (map, storage) with ⟨_ | answer, next, rest⟩
    · exact id
    · exact fun settled => settled.2

/-- A vector map refines an insertion-ordered list of entries along every run of additions, writes
and storage operations from a fresh map, under a lawful hasher and a valid load factor, each
added key equal to itself and each rebuild of the index sized within a word. The list's keys are
pairwise unequal. The index holds exactly each key with its position: it finds each stored key at
its position, so it maps the keys one to one onto the positions below the length. Lookups and
membership answer as the list does. The length, the values, the value at each position and the
entries rebuilt from the index are the list's, in insertion order. The next operation answers as
the list's and leaves a map that stands for the list it gives, or fails, as when appending a value
is refused, and leaves a map that still stands for the same list. -/
theorem reaches_refines_insertionOrder [Inhabited κ] {hasher : Hasher κ} {probing : Probing}
    {loadFactor : LoadFactor} {slotSize elementSize : Nat} {indexAccounted valuesAccounted : Bool}
    {slots values : Provider σ} {state : VectorMap κ ν × σ} {pairs : List (κ × ν)} :
    hasher.Lawful → loadFactor.isValid →
    Reaches slots values ⟨HashMap.empty hasher probing loadFactor slotSize indexAccounted,
      Vector.empty elementSize valuesAccounted⟩ state pairs →
      AssocList.Distinct hasher.equal pairs ∧ state.1.index.entries.Perm (positions pairs) ∧
      (∀ position (inside : position < pairs.length),
        state.1.index.get? pairs[position].1 = some (Int64.ofNat position) ∧
          (Int64.ofNat position).toInt = position) ∧
      (∀ key, state.1.get? key = .ok (AssocList.lookup hasher.equal pairs key) ∧
        state.1.index.contains key = (AssocList.lookup hasher.equal pairs key).isSome) ∧
      state.1.length = pairs.length ∧ state.1.values.items = .ok (pairs.map Prod.snd) ∧
      (∀ position (inside : position < pairs.length),
        state.1.values.get position = .ok pairs[position].2) ∧
      state.1.entries = .ok pairs ∧
      ∀ op : Op κ ν, op.Allowed state.1 →
        Mutation.Settles (op.run slots values) state.1 (fun next => next.Represents hasher pairs)
          fun answer next => answer = (op.spec hasher.equal pairs).1 ∧
            next.Represents hasher (op.spec hasher.equal pairs).2 := by
  intro lawful valid reaches
  have represents := reaches.represents
    (represents_empty hasher probing valid slotSize elementSize indexAccounted valuesAccounted) lawful
  refine ⟨represents.distinct, represents.positioned, fun position inside => ⟨?_, ?_⟩,
    fun key => ⟨represents.get?_eq lawful key, represents.contains_eq lawful key⟩,
    represents.length_eq, represents.values.items_eq, fun position inside => ?_,
    represents.entries_eq, fun op allowed => Op.run_settles slots values represents lawful op allowed⟩
  · exact represents.index_get? lawful inside
  · exact toInt_ofNat_position represents inside
  · rw [represents.values.get_eq (by rw [List.length_map]; exact inside), List.getElem_map]

/-- The run of one addition to a fresh vector map of signed keys meets the hypotheses. -/
theorem reaches_refines_insertionOrder_first_add :
    let hasher : Hasher Key := ⟨(KeyKind.signed 64).hash, (KeyKind.signed 64).equal⟩
    let provider : Provider Unit := ⟨fun _ _ storage => (.ok 0, storage), fun _ storage => storage⟩
    let fresh : VectorMap Key Int64 :=
      ⟨HashMap.empty hasher Probing.standard LoadFactor.half 24 true, Vector.empty 8 true⟩
    let first : Op Key Int64 := .add (.integer 7) 1
    let ran := (first.run provider provider).run.run (fresh, ())
    let pairs := first.after hasher.equal [] ran.1
    hasher.Lawful ∧ LoadFactor.half.isValid ∧ Reaches provider provider fresh ran.2 pairs ∧
      (AssocList.Distinct hasher.equal pairs ∧ ran.2.1.index.entries.Perm (positions pairs) ∧
        (∀ position (inside : position < pairs.length),
          ran.2.1.index.get? pairs[position].1 = some (Int64.ofNat position) ∧
            (Int64.ofNat position).toInt = position) ∧
        (∀ key, ran.2.1.get? key = .ok (AssocList.lookup hasher.equal pairs key) ∧
          ran.2.1.index.contains key = (AssocList.lookup hasher.equal pairs key).isSome) ∧
        ran.2.1.length = pairs.length ∧ ran.2.1.values.items = .ok (pairs.map Prod.snd) ∧
        (∀ position (inside : position < pairs.length),
          ran.2.1.values.get position = .ok pairs[position].2) ∧
        ran.2.1.entries = .ok pairs ∧
        ∀ op : Op Key Int64, op.Allowed ran.2.1 →
          Mutation.Settles (op.run provider provider) ran.2.1
            (fun next => next.Represents hasher pairs)
            fun answer next => answer = (op.spec hasher.equal pairs).1 ∧
              next.Represents hasher (op.spec hasher.equal pairs).2) := by
  intro hasher provider fresh first ran pairs
  have lawful : hasher.Lawful := KeyKind.lawful (.signed 64)
  have valid : LoadFactor.half.isValid := by decide
  have allowed : first.Allowed fresh := by
    refine ⟨fun _ => ?_, by decide⟩
    unfold LoadFactor.SlotsFit LoadFactor.InWord LoadFactor.exactSlots LoadFactor.slotsNeeded
      LoadFactor.ceilPowerOfTwo
    decide
  have reaches : Reaches provider provider fresh ran.2 pairs :=
    Reaches.step first (Reaches.start ()) allowed
  exact ⟨lawful, valid, reaches, reaches_refines_insertionOrder lawful valid reaches⟩

end VectorMap

end HeapKit
