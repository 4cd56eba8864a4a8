import Mathlib
import HeapKit.Proofs.HashMap.Table

/-!
# Association lists

The abstract map: a list of entries, each a key and a value, searched from the front for a key
that a given equality calls equal to the one asked for. `lookup`, `update` and `erase` are its
operations; a new key is appended. Under a lawful equality (symmetric and transitive, see
`Hasher.Lawful`), a list whose keys are pairwise unequal (`Distinct`) has at most one entry for a
key, so lookups do not depend on the order of its entries: `lookup_perm`.
-/

namespace HeapKit

namespace AssocList

variable {κ ν : Type} (equal : κ → κ → Bool)

/-- The value of the first entry whose key is equal to `key`. -/
def lookup (entries : List (κ × ν)) (key : κ) : Option ν :=
  (entries.find? fun entry => equal entry.1 key).map Prod.snd

/-- Changes the value of every entry whose key is equal to `key`. -/
def update (entries : List (κ × ν)) (key : κ) (change : ν → ν) : List (κ × ν) :=
  entries.map fun entry => if equal entry.1 key then (entry.1, change entry.2) else entry

/-- Drops every entry whose key is equal to `key`. -/
def erase (entries : List (κ × ν)) (key : κ) : List (κ × ν) :=
  entries.filter fun entry => !equal entry.1 key

/-- Appends an entry for `key` unless some entry's key is equal to it; says whether it did. -/
def add (entries : List (κ × ν)) (key : κ) (value : ν) : List (κ × ν) × Bool :=
  match lookup equal entries key with
  | some _ => (entries, false)
  | none => (entries ++ [(key, value)], true)

/-- Appends an entry for `key`, or gives the entry whose key is equal to it the new value; says
whether the key was new. -/
def addOverwrite (entries : List (κ × ν)) (key : κ) (value : ν) : List (κ × ν) × Bool :=
  match lookup equal entries key with
  | some _ => (update equal entries key fun _ => value, false)
  | none => (entries ++ [(key, value)], true)

/-- Appends an entry for `key` with `value` when no entry's key is equal to it, then changes the
value of the key's entry; answers the value before the change. -/
def lookupOrAdd (entries : List (κ × ν)) (key : κ) (value : ν) (change : ν → ν) :
    List (κ × ν) × Option ν :=
  match lookup equal entries key with
  | some old => (update equal entries key change, some old)
  | none => (entries ++ [(key, change value)], some value)

/-- No two entries have equal keys. -/
def Distinct (entries : List (κ × ν)) : Prop :=
  entries.Pairwise fun first second => equal first.1 second.1 = false

variable {equal}

theorem lookup_eq_none_iff {entries : List (κ × ν)} {key : κ} :
    lookup equal entries key = none ↔ ∀ entry ∈ entries, equal entry.1 key = false := by
  simp [lookup, List.find?_eq_none]

theorem exists_of_lookup_eq_some {entries : List (κ × ν)} {key : κ} {value : ν}
    (found : lookup equal entries key = some value) :
    ∃ stored, (stored, value) ∈ entries ∧ equal stored key = true := by
  obtain ⟨entry, first, rfl⟩ := Option.map_eq_some_iff.mp found
  have satisfies := List.find?_some first
  exact ⟨entry.1, List.mem_of_find?_eq_some first, satisfies⟩

/-- Changing values keeps the keys, so a distinct list stays distinct. -/
theorem Distinct.update {entries : List (κ × ν)} (distinct : Distinct equal entries) (key : κ)
    (change : ν → ν) : Distinct equal (update equal entries key change) := by
  unfold AssocList.update Distinct
  rw [List.pairwise_map]
  refine distinct.imp ?_
  intro first second unequal
  split <;> split <;> exact unequal

theorem Distinct.erase {entries : List (κ × ν)} (distinct : Distinct equal entries) (key : κ) :
    Distinct equal (erase equal entries key) :=
  List.Pairwise.filter _ distinct

theorem Distinct.append_absent {entries : List (κ × ν)} (distinct : Distinct equal entries)
    {key : κ} (absent : lookup equal entries key = none) (value : ν) :
    Distinct equal (entries ++ [(key, value)]) := by
  refine List.pairwise_append.mpr ⟨distinct, List.pairwise_singleton _ _, ?_⟩
  intro entry member added addedMember
  rw [List.mem_singleton.mp addedMember]
  exact lookup_eq_none_iff.mp absent entry member

theorem update_of_lookup_eq_none {entries : List (κ × ν)} {key : κ}
    (absent : lookup equal entries key = none) (change : ν → ν) :
    update equal entries key change = entries := by
  unfold update
  rw [List.map_congr_left (g := id) fun entry member => by
      simp [lookup_eq_none_iff.mp absent entry member], List.map_id]

theorem erase_of_lookup_eq_none {entries : List (κ × ν)} {key : κ}
    (absent : lookup equal entries key = none) : erase equal entries key = entries :=
  List.filter_eq_self.mpr fun entry member => by simp [lookup_eq_none_iff.mp absent entry member]

section Lawful

variable {hasher : Hasher κ} (lawful : hasher.Lawful)
include lawful

theorem unequal_symm {first second : κ × ν} (unequal : hasher.equal first.1 second.1 = false) :
    hasher.equal second.1 first.1 = false := by
  cases equal : hasher.equal second.1 first.1
  · rfl
  · rw [lawful.symm equal] at unequal
    cases unequal

theorem distinct_perm {entries other : List (κ × ν)} (perm : entries.Perm other)
    (distinct : Distinct hasher.equal entries) : Distinct hasher.equal other :=
  (perm.pairwise_iff (unequal_symm lawful)).mp distinct

/-- Around an entry whose key is equal to `key`, a distinct list has no other such entry. -/
theorem Distinct.unequal_around {front back : List (κ × ν)} {stored key : κ} {old : ν}
    (distinct : Distinct hasher.equal (front ++ (stored, old) :: back))
    (equal : hasher.equal stored key = true) :
    ∀ entry ∈ front ++ back, hasher.equal entry.1 key = false := by
  rw [Distinct, List.pairwise_middle (unequal_symm lawful), List.pairwise_cons] at distinct
  intro entry member
  cases entryEqual : hasher.equal entry.1 key
  · rfl
  · have related := lawful.trans equal (lawful.symm entryEqual)
    rw [distinct.1 entry member] at related
    cases related

theorem update_around {front back : List (κ × ν)} {stored key : κ} {old : ν}
    (distinct : Distinct hasher.equal (front ++ (stored, old) :: back))
    (equal : hasher.equal stored key = true) (change : ν → ν) :
    update hasher.equal (front ++ (stored, old) :: back) key change =
      front ++ (stored, change old) :: back := by
  have others := distinct.unequal_around lawful equal
  unfold update
  rw [List.map_append, List.map_cons, if_pos equal]
  rw [List.map_congr_left (g := id) fun entry member => by
      simp [others entry (List.mem_append_left _ member)],
    List.map_congr_left (l := back) (g := id) fun entry member => by
      simp [others entry (List.mem_append_right _ member)],
    List.map_id, List.map_id]

theorem erase_around {front back : List (κ × ν)} {stored key : κ} {old : ν}
    (distinct : Distinct hasher.equal (front ++ (stored, old) :: back))
    (equal : hasher.equal stored key = true) :
    erase hasher.equal (front ++ (stored, old) :: back) key = front ++ back := by
  have others := distinct.unequal_around lawful equal
  unfold erase
  rw [List.filter_append, List.filter_cons_of_neg (by simp [equal])]
  congr 1
  · exact List.filter_eq_self.mpr fun entry member => by
      simp [others entry (List.mem_append_left _ member)]
  · exact List.filter_eq_self.mpr fun entry member => by
      simp [others entry (List.mem_append_right _ member)]

/-- Two entries of a distinct list whose keys are both equal to one key are the same entry. -/
theorem Distinct.eq_of_equal {entries : List (κ × ν)} (distinct : Distinct hasher.equal entries)
    {key : κ} {first second : κ × ν} (firstMember : first ∈ entries)
    (secondMember : second ∈ entries) (firstEqual : hasher.equal first.1 key = true)
    (secondEqual : hasher.equal second.1 key = true) : first = second := by
  have related := lawful.trans firstEqual (lawful.symm secondEqual)
  induction entries with
  | nil => cases firstMember
  | cons head rest inductionHypothesis =>
    rw [Distinct, List.pairwise_cons] at distinct
    rcases List.mem_cons.mp firstMember with rfl | firstRest <;>
      rcases List.mem_cons.mp secondMember with rfl | secondRest
    · rfl
    · rw [distinct.1 second secondRest] at related
      cases related
    · have reversed := lawful.symm related
      rw [distinct.1 first firstRest] at reversed
      cases reversed
    · exact inductionHypothesis distinct.2 firstRest secondRest

/-- In a distinct list, the value of a key is that of any entry with an equal key. -/
theorem lookup_eq_some_of_mem {entries : List (κ × ν)} (distinct : Distinct hasher.equal entries)
    {stored key : κ} {value : ν} (member : (stored, value) ∈ entries)
    (equal : hasher.equal stored key = true) : lookup hasher.equal entries key = some value := by
  unfold lookup
  obtain ⟨found, first⟩ := Option.isSome_iff_exists.mp
    ((List.find?_isSome (p := fun entry => hasher.equal entry.1 key)).mpr
      ⟨(stored, value), member, equal⟩)
  have satisfies := List.find?_some first
  have same := distinct.eq_of_equal lawful (List.mem_of_find?_eq_some first) member satisfies equal
  rw [first, same]
  rfl

/-- Lookups in a distinct list do not depend on the order of its entries. -/
theorem lookup_perm {entries other : List (κ × ν)} (distinct : Distinct hasher.equal entries)
    (perm : entries.Perm other) (key : κ) :
    lookup hasher.equal other key = lookup hasher.equal entries key := by
  cases found : lookup hasher.equal entries key with
  | none =>
    rw [lookup_eq_none_iff] at found ⊢
    exact fun entry member => found entry (perm.symm.subset member)
  | some value =>
    obtain ⟨stored, member, equal⟩ := exists_of_lookup_eq_some found
    exact lookup_eq_some_of_mem lawful (distinct_perm lawful perm distinct) (perm.subset member) equal

end Lawful

end AssocList

end HeapKit
