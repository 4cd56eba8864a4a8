import Mathlib
import HeapKit.Container.HashMap.Basic
import HeapKit.Proofs.HashMap.Probing

/-!
# Sound tables

A walk along a probe sequence is a search of a list: `walk` is `List.findSome?` over the slots of
the sequence, and `firstEmpty` is `List.find?`. On that reading, `TableSound` is what a table must
keep for lookups to be right: no two entries with equal keys, and every entry on its key's probe
sequence before the first empty slot. Filling the first empty slot of a new key's sequence,
leaving a tombstone and replacing a value keep it, and so does a rebuild (`placeAll_spec`), which
moreover places every entry when the table has room for them.

Keys are compared by the map's hasher; `Hasher.Lawful` asks of it what the lemmas need: a
symmetric and transitive equality, not necessarily reflexive, under which equal keys hash alike.
-/

namespace HeapKit

section Splitting

variable {α β : Type} {l : List α} {index : Nat} {old new : α}

/-- A list around one of its positions. -/
theorem eq_take_append_cons_drop (found : l[index]? = some old) :
    l = l.take index ++ old :: l.drop (index + 1) := by
  obtain ⟨bound, rfl⟩ := List.getElem?_eq_some_iff.mp found
  rw [← List.drop_eq_getElem_cons bound, List.take_append_drop]

theorem set_eq_take_append_cons_drop_of_getElem? (found : l[index]? = some old) :
    l.set index new = l.take index ++ new :: l.drop (index + 1) := by
  obtain ⟨bound, -⟩ := List.getElem?_eq_some_iff.mp found
  rw [List.set_eq_take_append_cons_drop, if_pos bound]

/-- Replacing one position changes a `filterMap` only there. -/
theorem filterMap_set_split (f : α → Option β) (found : l[index]? = some old) :
    ∃ front back, l.filterMap f = front ++ (f old).toList ++ back ∧
      (l.set index new).filterMap f = front ++ (f new).toList ++ back := by
  refine ⟨(l.take index).filterMap f, (l.drop (index + 1)).filterMap f, ?_, ?_⟩
  · conv => lhs; rw [eq_take_append_cons_drop found]
    rw [List.filterMap_append, List.filterMap_cons]
    cases f old <;> simp
  · rw [set_eq_take_append_cons_drop_of_getElem? found, List.filterMap_append,
      List.filterMap_cons]
    cases f new <;> simp

/-- Replacing one position changes a count only there. -/
theorem countP_set_add (p : α → Bool) (found : l[index]? = some old) :
    (l.set index new).countP p + (if p old then 1 else 0) =
      l.countP p + (if p new then 1 else 0) := by
  conv => rhs; rw [eq_take_append_cons_drop found]
  rw [set_eq_take_append_cons_drop_of_getElem? found]
  simp only [List.countP_append, List.countP_cons]
  omega

end Splitting

/-! ### Walks along a list -/

section Walks

variable {α β : Type} {l : List α}

/-- Enlarging the predicate keeps what the shorter prefix held. -/
theorem mem_takeWhile_mono {p q : α → Bool} (implies : ∀ x ∈ l, p x = true → q x = true)
    {a : α} (member : a ∈ l.takeWhile p) : a ∈ l.takeWhile q := by
  induction l with
  | nil => simp at member
  | cons x rest inductionHypothesis =>
    rw [List.takeWhile_cons] at member ⊢
    by_cases passes : p x = true
    · rw [if_pos passes, List.mem_cons] at member
      rw [if_pos (implies x List.mem_cons_self passes), List.mem_cons]
      rcases member with rfl | member
      · exact Or.inl rfl
      · exact Or.inr (inductionHypothesis (fun y m => implies y (List.mem_cons_of_mem _ m)) member)
    · rw [if_neg passes] at member
      simp at member

/-- The first element that satisfies `p` lies in the prefix of a predicate that every earlier
element satisfies and that holds of it. -/
theorem mem_takeWhile_of_find? {p q : α → Bool} {a : α} (found : l.find? p = some a)
    (here : q a = true) (before : ∀ x ∈ l, p x = false → q x = true) : a ∈ l.takeWhile q := by
  induction l with
  | nil => simp at found
  | cons x rest inductionHypothesis =>
    rw [List.find?_cons] at found
    rw [List.takeWhile_cons]
    by_cases first : p x = true
    · rw [first] at found
      cases found
      rw [if_pos here]
      exact List.mem_cons_self
    · rw [Bool.not_eq_true] at first
      rw [first] at found
      rw [if_pos (before x List.mem_cons_self first)]
      exact List.mem_cons_of_mem _
        (inductionHypothesis found (fun y m => before y (List.mem_cons_of_mem _ m)))

/-- A search stops with `b` when some element of a prefix gives `b` and every element of the
prefix gives `b` or nothing. -/
theorem findSome?_eq_of_mem_takeWhile {f : α → Option β} {p : α → Bool} {b : β} {a : α}
    (member : a ∈ l.takeWhile p) (gives : f a = some b)
    (others : ∀ x ∈ l.takeWhile p, f x = none ∨ f x = some b) : l.findSome? f = some b := by
  induction l with
  | nil => simp at member
  | cons x rest inductionHypothesis =>
    rw [List.takeWhile_cons] at member others
    by_cases passes : p x = true
    · rw [if_pos passes] at member others
      rw [List.findSome?_cons]
      rcases others x List.mem_cons_self with nothing | found
      · rw [nothing]
        rcases List.mem_cons.mp member with rfl | member
        · rw [gives] at nothing
          cases nothing
        · exact inductionHypothesis member (fun y m => others y (List.mem_cons_of_mem _ m))
      · rw [found]
    · rw [if_neg passes] at member
      simp at member

/-- A search whose test gives `g x` exactly at the elements that satisfy `p` finds the first of
them. -/
theorem findSome?_eq_map_find? {f : α → Option β} {p : α → Bool} {g : α → β}
    (gives : ∀ x ∈ l, f x = if p x then some (g x) else none) :
    l.findSome? f = (l.find? p).map g := by
  induction l with
  | nil => rfl
  | cons x rest inductionHypothesis =>
    rw [List.findSome?_cons, List.find?_cons, gives x List.mem_cons_self]
    by_cases first : p x = true
    · simp [first]
    · simp only [Bool.not_eq_true] at first
      simp only [first, Bool.false_eq_true, if_false]
      exact inductionHypothesis (fun y m => gives y (List.mem_cons_of_mem _ m))

end Walks

namespace Slot

variable {κ ν : Type}

/-- The entry a slot holds, if it is occupied. -/
def occupant? : Slot κ ν → Option (κ × ν)
  | .occupied key value => some (key, value)
  | _ => none

/-- Whether a slot is empty: the end of every walk that reaches it. -/
def isEmpty : Slot κ ν → Bool
  | .empty => true
  | _ => false

/-- Whether a slot holds an entry or a tombstone: whether a walk passes over it. -/
def isFilled : Slot κ ν → Bool
  | .empty => false
  | _ => true

/-- Whether a slot holds a tombstone. -/
def isRemoved : Slot κ ν → Bool
  | .removed => true
  | _ => false

@[simp] theorem occupant?_occupied (key : κ) (value : ν) :
    (Slot.occupied key value).occupant? = some (key, value) := rfl

@[simp] theorem occupant?_empty : (Slot.empty : Slot κ ν).occupant? = none := rfl

@[simp] theorem occupant?_removed : (Slot.removed : Slot κ ν).occupant? = none := rfl

end Slot

/-- How keys must behave for a map to work: equality is symmetric and transitive, though not
necessarily reflexive, and equal keys hash alike. -/
structure Hasher.Lawful {κ : Type} (hasher : Hasher κ) : Prop where
  symm : ∀ {a b : κ}, hasher.equal a b = true → hasher.equal b a = true
  trans : ∀ {a b c : κ}, hasher.equal a b = true → hasher.equal b c = true → hasher.equal a c = true
  hash_eq : ∀ {a b : κ}, hasher.equal a b = true → hasher.hash a = hasher.hash b

namespace HashMap

variable {κ ν : Type}

/-- Whether the slot at `index` is empty; an index past the table is not. -/
def emptyAt (slots : Array (Slot κ ν)) (index : Nat) : Bool :=
  match slots[index]? with
  | some .empty => true
  | _ => false

/-- What a walk for `key` does at slot `index`: stop as found at an occupied slot whose key is
equal, stop as not found at an empty slot, or go on. -/
def stopAt (map : HashMap κ ν) (key : κ) (index : Nat) : Option (Nat × Bool) :=
  match map.slots[index]? with
  | some .empty => some (index, false)
  | some (.occupied stored _) => if map.hasher.equal stored key then some (index, true) else none
  | _ => none

theorem walk_eq_findSome? (map : HashMap κ ν) (key : κ) (fuel : Nat) (prober : Prober) :
    map.walk key fuel prober =
      (Probing.sequence.go map.mask fuel prober).findSome? (map.stopAt key) := by
  induction fuel generalizing prober with
  | zero => rfl
  | succ fuel inductionHypothesis =>
    rw [Probing.sequence_go_succ, List.findSome?_cons, ← inductionHypothesis]
    simp only [walk, Prober.next_eq, stopAt]
    generalize map.slots[((prober.hash + prober.offset) &&& map.mask).toNat]? = found
    rcases found with _ | (_ | ⟨stored, value⟩ | _)
    · rfl
    · rfl
    · by_cases equal : map.hasher.equal stored key <;> simp [equal]
    · rfl

/-- The slots a walk for a key with `hash` visits in a table. -/
def probes (probing : Probing) (hash : UInt64) (slots : Array (Slot κ ν)) (mask : UInt64) :
    List Nat :=
  probing.sequence hash mask (probing.bound slots.size)

theorem locate_eq_findSome? (map : HashMap κ ν) (key : κ) :
    map.locate key =
      (probes map.probing (map.hasher.hash key) map.slots map.mask).findSome? (map.stopAt key) :=
  walk_eq_findSome? map key _ _

theorem firstEmpty_eq_find? (slots : Array (Slot κ ν)) (mask : UInt64) (fuel : Nat)
    (prober : Prober) :
    firstEmpty slots mask fuel prober = (Probing.sequence.go mask fuel prober).find? (emptyAt slots) := by
  induction fuel generalizing prober with
  | zero => rfl
  | succ fuel inductionHypothesis =>
    rw [Probing.sequence_go_succ, List.find?_cons, ← inductionHypothesis]
    simp only [firstEmpty, Prober.next_eq, emptyAt]
    generalize slots[((prober.hash + prober.offset) &&& mask).toNat]? = found
    rcases found with _ | (_ | _ | _) <;> rfl

/-- The table has `2 ^ bits` slots for some `bits < 63` and the mask is one less, or it has no
slots and a zero mask. -/
def Shaped (slots : Array (Slot κ ν)) (mask : UInt64) : Prop :=
  (∃ bits < 63, slots.size = 2 ^ bits ∧ mask.toNat = 2 ^ bits - 1) ∨ (slots.size = 0 ∧ mask = 0)

/-- What the table itself keeps: no two entries have equal keys, and every entry lies on its
key's probe sequence before any empty slot, so that a walk for an equal key reaches it. -/
structure TableSound (hasher : Hasher κ) (probing : Probing) (slots : Array (Slot κ ν))
    (mask : UInt64) : Prop where
  distinct : ∀ {first second : Nat} {a b : κ} {v w : ν}, first ≠ second →
    slots[first]? = some (.occupied a v) → slots[second]? = some (.occupied b w) →
    hasher.equal a b = false
  reachable : ∀ {index : Nat} {key : κ} {value : ν}, slots[index]? = some (.occupied key value) →
    index ∈ (probes probing (hasher.hash key) slots mask).takeWhile fun slot => !emptyAt slots slot

theorem emptyAt_eq_false_of_mem_takeWhile {slots : Array (Slot κ ν)} {sequence : List Nat}
    {slot : Nat} (member : slot ∈ sequence.takeWhile fun slot => !emptyAt slots slot) :
    emptyAt slots slot = false := by
  simpa using List.mem_takeWhile_imp member

/-- Every slot of a table with slots lies on every probe sequence. -/
theorem mem_probes (probing : Probing) (hash : UInt64) {slots : Array (Slot κ ν)} {mask : UInt64}
    (shaped : Shaped slots mask) {slot : Nat} (below : slot < slots.size) :
    slot ∈ probes probing hash slots mask := by
  rcases shaped with ⟨bits, small, sized, masked⟩ | ⟨empty, -⟩
  · unfold probes
    rw [sized] at below ⊢
    exact Probing.mem_sequence_bound probing hash (by omega) masked below
  · omega

/-! ### Looking a key up -/

section Lookup

variable {map : HashMap κ ν} {key : κ}

/-- Two slots that hold keys equal to one key are the same slot. -/
theorem TableSound.eq_of_equal {hasher : Hasher κ} {probing : Probing} {slots : Array (Slot κ ν)}
    {mask : UInt64} (sound : TableSound hasher probing slots mask) (lawful : hasher.Lawful)
    {first second : Nat} {a b : κ} {v w : ν} (atFirst : slots[first]? = some (.occupied a v))
    (atSecond : slots[second]? = some (.occupied b w)) (equalFirst : hasher.equal a key = true)
    (equalSecond : hasher.equal b key = true) : first = second := by
  by_contra different
  have equal := lawful.trans equalFirst (lawful.symm equalSecond)
  rw [sound.distinct different atFirst atSecond] at equal
  cases equal

/-- A walk for a key finds the slot of the equal key the table holds. -/
theorem locate_of_equal (sound : TableSound map.hasher map.probing map.slots map.mask)
    (lawful : map.hasher.Lawful) {index : Nat} {stored : κ} {value : ν}
    (found : map.slots[index]? = some (.occupied stored value))
    (equal : map.hasher.equal stored key = true) : map.locate key = some (index, true) := by
  rw [locate_eq_findSome?, ← lawful.hash_eq equal]
  refine findSome?_eq_of_mem_takeWhile (sound.reachable found) ?_ ?_
  · simp [stopAt, found, equal]
  · intro slot member
    have passes := emptyAt_eq_false_of_mem_takeWhile member
    cases atSlot : map.slots[slot]? with
    | none => simp [stopAt, atSlot]
    | some content =>
      cases content with
      | empty => simp [emptyAt, atSlot] at passes
      | occupied other otherValue =>
        by_cases otherEqual : map.hasher.equal other key = true
        · rw [sound.eq_of_equal lawful atSlot found otherEqual equal]
          simp [stopAt, found, equal]
        · simp [stopAt, atSlot, otherEqual]
      | removed => simp [stopAt, atSlot]

/-- When no stored key is equal, a walk stops at the first empty slot of the sequence. -/
theorem locate_of_absent
    (absent : ∀ {index : Nat} {stored : κ} {value : ν},
      map.slots[index]? = some (.occupied stored value) → map.hasher.equal stored key = false) :
    map.locate key =
      ((probes map.probing (map.hasher.hash key) map.slots map.mask).find?
        (emptyAt map.slots)).map fun index => (index, false) := by
  rw [locate_eq_findSome?]
  apply findSome?_eq_map_find?
  intro slot _
  cases atSlot : map.slots[slot]? with
  | none => simp [stopAt, emptyAt, atSlot]
  | some content =>
    cases content with
    | empty => simp [stopAt, emptyAt, atSlot]
    | occupied stored value => simp [stopAt, emptyAt, atSlot, absent atSlot]
    | removed => simp [stopAt, emptyAt, atSlot]

/-- In a table with an empty slot, every probe sequence meets an empty slot. -/
theorem find?_emptyAt_isSome (probing : Probing) (hash : UInt64) {slots : Array (Slot κ ν)}
    {mask : UInt64} (shaped : Shaped slots mask) {empty : Nat}
    (isEmpty : slots[empty]? = some .empty) :
    ((probes probing hash slots mask).find? (emptyAt slots)).isSome := by
  obtain ⟨bound, -⟩ := Array.getElem?_eq_some_iff.mp isEmpty
  rw [List.find?_isSome]
  exact ⟨empty, mem_probes probing hash shaped bound, by simp [emptyAt, isEmpty]⟩

theorem emptyAt_of_find? {slots : Array (Slot κ ν)} {sequence : List Nat} {index : Nat}
    (found : sequence.find? (emptyAt slots) = some index) : slots[index]? = some .empty := by
  have := List.find?_some found
  unfold emptyAt at this
  split at this
  · assumption
  · cases this

end Lookup

/-! ### Changing one slot -/

section Change

variable {hasher : Hasher κ} {probing : Probing} {slots : Array (Slot κ ν)} {mask : UInt64}
  {index : Nat}

theorem probes_setIfInBounds (hash : UInt64) (content : Slot κ ν) :
    probes probing hash (slots.setIfInBounds index content) mask = probes probing hash slots mask := by
  simp [probes]

/-- A slot that stays non-empty leaves every walk's stopping points where they were. -/
theorem emptyAt_setIfInBounds_of_nonEmpty {old new : Slot κ ν} (atIndex : slots[index]? = some old)
    (oldFull : old.isEmpty = false) (newFull : new.isEmpty = false) :
    emptyAt (slots.setIfInBounds index new) = emptyAt slots := by
  obtain ⟨bound, -⟩ := Array.getElem?_eq_some_iff.mp atIndex
  funext slot
  unfold emptyAt
  rw [Array.getElem?_setIfInBounds]
  by_cases same : index = slot
  · subst same
    rw [if_pos rfl, if_pos bound, atIndex]
    cases old <;> cases new <;> simp_all [Slot.isEmpty]
  · rw [if_neg same]

/-- Filling the first empty slot of a key's sequence with that key keeps the table sound, when
no stored key is equal to it. -/
theorem TableSound.occupy (sound : TableSound hasher probing slots mask) (lawful : hasher.Lawful)
    {key : κ} {value : ν}
    (first : (probes probing (hasher.hash key) slots mask).find? (emptyAt slots) = some index)
    (absent : ∀ {slot : Nat} {stored : κ} {other : ν},
      slots[slot]? = some (.occupied stored other) → hasher.equal stored key = false) :
    TableSound hasher probing (slots.setIfInBounds index (.occupied key value)) mask := by
  have wasEmpty := emptyAt_of_find? first
  obtain ⟨bound, -⟩ := Array.getElem?_eq_some_iff.mp wasEmpty
  have lookup : ∀ slot, (slots.setIfInBounds index (.occupied key value))[slot]? =
      if index = slot then some (.occupied key value) else slots[slot]? := by
    intro slot
    rw [Array.getElem?_setIfInBounds]
    split <;> simp_all
  have keepsFull : ∀ slot, emptyAt slots slot = false →
      emptyAt (slots.setIfInBounds index (.occupied key value)) slot = false := by
    intro slot full
    unfold emptyAt at full ⊢
    rw [lookup]
    by_cases same : index = slot
    · rw [if_pos same]
    · rw [if_neg same]
      exact full
  have newKey : ∀ {slot : Nat} {stored : κ} {other : ν}, slots[slot]? = some (.occupied stored other) →
      hasher.equal key stored = false := by
    intro slot stored other atSlot
    cases equal : hasher.equal key stored
    · rfl
    · have := absent atSlot
      rw [lawful.symm equal] at this
      cases this
  constructor
  · intro firstSlot secondSlot a b v w different atFirst atSecond
    rw [lookup] at atFirst atSecond
    by_cases firstNew : index = firstSlot
    · rw [if_pos firstNew] at atFirst
      rw [if_neg (fun same => different (firstNew.symm.trans same))] at atSecond
      cases atFirst
      exact newKey atSecond
    · rw [if_neg firstNew] at atFirst
      by_cases secondNew : index = secondSlot
      · rw [if_pos secondNew] at atSecond
        cases atSecond
        exact absent atFirst
      · rw [if_neg secondNew] at atSecond
        exact sound.distinct different atFirst atSecond
  · intro slot stored other atSlot
    rw [probes_setIfInBounds]
    rw [lookup] at atSlot
    by_cases same : index = slot
    · rw [if_pos same] at atSlot
      cases atSlot
      subst same
      apply mem_takeWhile_of_find? first
      · simp [emptyAt, lookup]
      · intro candidate _ full
        rw [keepsFull candidate full]
        rfl
    · rw [if_neg same] at atSlot
      apply mem_takeWhile_mono _ (sound.reachable atSlot)
      intro candidate _ full
      rw [keepsFull candidate (by simpa using full)]
      rfl

/-- A table with the same empty slots whose entries keep their keys at their slots is as sound. -/
theorem TableSound.of_keys (sound : TableSound hasher probing slots mask)
    {updated : Array (Slot κ ν)} (sizes : updated.size = slots.size)
    (empties : emptyAt updated = emptyAt slots)
    (keys : ∀ {slot : Nat} {key : κ} {value : ν}, updated[slot]? = some (.occupied key value) →
      ∃ before, slots[slot]? = some (.occupied key before)) :
    TableSound hasher probing updated mask := by
  constructor
  · intro first second a b v w different atFirst atSecond
    obtain ⟨_, atFirst⟩ := keys atFirst
    obtain ⟨_, atSecond⟩ := keys atSecond
    exact sound.distinct different atFirst atSecond
  · intro slot key value atSlot
    obtain ⟨_, before⟩ := keys atSlot
    rw [empties, probes, sizes]
    exact sound.reachable before

/-- Leaving a tombstone in an occupied slot keeps the table sound. -/
theorem TableSound.tombstone (sound : TableSound hasher probing slots mask) {key : κ} {value : ν}
    (atIndex : slots[index]? = some (.occupied key value)) :
    TableSound hasher probing (slots.setIfInBounds index .removed) mask := by
  apply sound.of_keys (by simp) (emptyAt_setIfInBounds_of_nonEmpty atIndex rfl rfl)
  intro slot stored other atSlot
  rw [Array.getElem?_setIfInBounds] at atSlot
  split at atSlot
  · split at atSlot <;> cases atSlot
  · exact ⟨other, atSlot⟩

/-- Giving an occupied slot a new value keeps the table sound. -/
theorem TableSound.replaceValue (sound : TableSound hasher probing slots mask) {key : κ}
    {value replacement : ν} (atIndex : slots[index]? = some (.occupied key value)) :
    TableSound hasher probing (slots.setIfInBounds index (.occupied key replacement)) mask := by
  apply sound.of_keys (by simp) (emptyAt_setIfInBounds_of_nonEmpty atIndex rfl rfl)
  intro slot stored other atSlot
  rw [Array.getElem?_setIfInBounds] at atSlot
  split at atSlot
  · rename_i same
    split at atSlot
    · cases atSlot
      exact ⟨value, same ▸ atIndex⟩
    · cases atSlot
  · exact ⟨other, atSlot⟩

end Change

/-! ### Entries and counts of a changed table -/

section Counts

variable {slots : Array (Slot κ ν)} {index : Nat}

/-- The slots that hold an entry or a tombstone. -/
def filledCount (slots : Array (Slot κ ν)) : Nat := slots.toList.countP Slot.isFilled

/-- The slots that hold a tombstone. -/
def tombstoneCount (slots : Array (Slot κ ν)) : Nat := slots.toList.countP Slot.isRemoved

/-- The entries of a table, in slot order. -/
def entriesOf (slots : Array (Slot κ ν)) : List (κ × ν) := slots.toList.filterMap Slot.occupant?

theorem entries_eq_entriesOf (map : HashMap κ ν) : map.entries = entriesOf map.slots := by
  unfold entries entriesOf
  congr

theorem mem_entriesOf {key : κ} {value : ν} :
    (key, value) ∈ entriesOf slots ↔ ∃ index : Nat, slots[index]? = some (.occupied key value) := by
  unfold entriesOf
  rw [List.mem_filterMap]
  constructor
  · rintro ⟨slot, member, holds⟩
    obtain ⟨index, found⟩ := List.mem_iff_getElem?.mp member
    refine ⟨index, ?_⟩
    rw [← Array.getElem?_toList, found]
    cases slot <;> simp_all [Slot.occupant?]
  · rintro ⟨index, found⟩
    refine ⟨.occupied key value, ?_, rfl⟩
    rw [← Array.getElem?_toList] at found
    exact List.mem_of_getElem? found

/-- Changing the slot at `index` in place is writing its changed content there. -/
theorem modify_eq_setIfInBounds {index : Nat} {content : Slot κ ν} (change : Slot κ ν → Slot κ ν)
    (atIndex : slots[index]? = some content) :
    slots.modify index change = slots.setIfInBounds index (change content) := by
  apply Array.ext_getElem?
  intro slot
  rw [Array.getElem?_modify, Array.getElem?_setIfInBounds]
  obtain ⟨bound, found⟩ := Array.getElem?_eq_some_iff.mp atIndex
  by_cases same : index = slot
  · subst same
    simp [bound, found]
  · simp [same]

theorem countP_setIfInBounds (p : Slot κ ν → Bool) (new : Slot κ ν) {old : Slot κ ν}
    (atIndex : slots[index]? = some old) :
    (slots.setIfInBounds index new).toList.countP p + (if p old then 1 else 0) =
      slots.toList.countP p + (if p new then 1 else 0) := by
  rw [Array.toList_setIfInBounds]
  exact countP_set_add p (by rw [Array.getElem?_toList]; exact atIndex)

theorem entriesOf_setIfInBounds (new : Slot κ ν) {old : Slot κ ν} (atIndex : slots[index]? = some old) :
    ∃ front back, entriesOf slots = front ++ old.occupant?.toList ++ back ∧
      entriesOf (slots.setIfInBounds index new) = front ++ new.occupant?.toList ++ back := by
  unfold entriesOf
  rw [Array.toList_setIfInBounds]
  exact filterMap_set_split Slot.occupant? (by rw [Array.getElem?_toList]; exact atIndex)

/-- Filling an empty slot adds its entry. -/
theorem entriesOf_occupy {key : κ} {value : ν} (atIndex : slots[index]? = some .empty) :
    (entriesOf (slots.setIfInBounds index (.occupied key value))).Perm
      ((key, value) :: entriesOf slots) := by
  obtain ⟨front, back, before, after⟩ := entriesOf_setIfInBounds (.occupied key value) atIndex
  rw [before, after]
  simp [List.perm_middle]

/-- A tombstone takes its slot's entry away. -/
theorem entriesOf_tombstone {key : κ} {value : ν}
    (atIndex : slots[index]? = some (.occupied key value)) :
    (entriesOf slots).Perm ((key, value) :: entriesOf (slots.setIfInBounds index .removed)) := by
  obtain ⟨front, back, before, after⟩ := entriesOf_setIfInBounds .removed atIndex
  rw [before, after]
  simp [List.perm_middle]

theorem filledCount_occupy {key : κ} {value : ν} (atIndex : slots[index]? = some .empty) :
    filledCount (slots.setIfInBounds index (.occupied key value)) = filledCount slots + 1 := by
  have counted := countP_setIfInBounds Slot.isFilled (.occupied key value) atIndex
  simp only [Slot.isFilled, Bool.false_eq_true, if_false, if_true] at counted
  unfold filledCount
  omega

theorem tombstoneCount_occupy {key : κ} {value : ν} (atIndex : slots[index]? = some .empty) :
    tombstoneCount (slots.setIfInBounds index (.occupied key value)) = tombstoneCount slots := by
  have counted := countP_setIfInBounds Slot.isRemoved (.occupied key value) atIndex
  simp only [Slot.isRemoved, Bool.false_eq_true, if_false] at counted
  unfold tombstoneCount
  omega

theorem filledCount_tombstone {key : κ} {value : ν}
    (atIndex : slots[index]? = some (.occupied key value)) :
    filledCount (slots.setIfInBounds index .removed) = filledCount slots := by
  have counted := countP_setIfInBounds Slot.isFilled .removed atIndex
  simp only [Slot.isFilled, if_true] at counted
  unfold filledCount
  omega

theorem tombstoneCount_tombstone {key : κ} {value : ν}
    (atIndex : slots[index]? = some (.occupied key value)) :
    tombstoneCount (slots.setIfInBounds index .removed) = tombstoneCount slots + 1 := by
  have counted := countP_setIfInBounds Slot.isRemoved .removed atIndex
  simp only [Slot.isRemoved, Bool.false_eq_true, if_false, if_true] at counted
  unfold tombstoneCount
  omega

/-- A table with fewer filled slots than slots has an empty one. -/
theorem exists_empty_of_filledCount_lt (fewer : filledCount slots < slots.size) :
    ∃ index : Nat, slots[index]? = some .empty := by
  have split := List.length_eq_countP_add_countP Slot.isFilled (l := slots.toList)
  unfold filledCount at fewer
  rw [Array.length_toList] at split
  have positive : 0 < slots.toList.countP fun slot => ¬slot.isFilled := by omega
  obtain ⟨slot, member, isEmpty⟩ := List.countP_pos_iff.mp positive
  obtain ⟨index, found⟩ := List.mem_iff_getElem?.mp member
  refine ⟨index, ?_⟩
  rw [← Array.getElem?_toList, found]
  cases slot <;> simp_all [Slot.isFilled]

theorem length_entriesOf_add_tombstoneCount (slots : Array (Slot κ ν)) :
    (entriesOf slots).length + tombstoneCount slots = filledCount slots := by
  unfold entriesOf tombstoneCount filledCount
  generalize slots.toList = contents
  induction contents with
  | nil => rfl
  | cons slot rest inductionHypothesis =>
    cases slot <;> simp [List.filterMap_cons, List.countP_cons, Slot.isFilled, Slot.isRemoved] <;>
      omega

/-- No two entries of a sound table have equal keys. -/
theorem TableSound.pairwise_entriesOf {hasher : Hasher κ} {probing : Probing} {mask : UInt64}
    (sound : TableSound hasher probing slots mask) :
    (entriesOf slots).Pairwise fun a b => hasher.equal a.1 b.1 = false := by
  unfold entriesOf
  rw [List.pairwise_filterMap, List.pairwise_iff_getElem]
  intro first second firstBound secondBound before a atFirst b atSecond
  have firstSlot : slots[first]? = some slots.toList[first] := by simp
  have secondSlot : slots[second]? = some slots.toList[second] := by simp
  revert atFirst atSecond firstSlot secondSlot
  cases slots.toList[first] <;> cases slots.toList[second] <;> simp only [Slot.occupant?_occupied,
    Slot.occupant?_empty, Slot.occupant?_removed, reduceCtorEq, Option.some.injEq,
    false_implies, implies_true]
  rintro rfl rfl atFirst atSecond
  exact sound.distinct (by omega) atFirst atSecond

end Counts

/-! ### Rebuilding -/

section Rebuild

variable {hasher : Hasher κ} {probing : Probing} {slots : Array (Slot κ ν)} {mask : UInt64}

@[simp] theorem shaped_setIfInBounds {index : Nat} {content : Slot κ ν} :
    Shaped (slots.setIfInBounds index content) mask ↔ Shaped slots mask := by
  simp [Shaped]

theorem replicate_empty_ne_occupied {count slot : Nat} {key : κ} {value : ν} :
    (Array.replicate count (Slot.empty : Slot κ ν))[slot]? ≠ some (.occupied key value) := by
  rw [Array.getElem?_replicate]
  split <;> simp

theorem tableSound_replicate (count : Nat) :
    TableSound hasher probing (Array.replicate count (Slot.empty : Slot κ ν)) mask where
  distinct _ atFirst := absurd atFirst replicate_empty_ne_occupied
  reachable atIndex := absurd atIndex replicate_empty_ne_occupied

@[simp] theorem entriesOf_replicate (count : Nat) :
    entriesOf (Array.replicate count (Slot.empty : Slot κ ν)) = [] := by
  simp [entriesOf, Slot.occupant?]

@[simp] theorem filledCount_replicate (count : Nat) :
    filledCount (Array.replicate count (Slot.empty : Slot κ ν)) = 0 := by
  simp [filledCount, Slot.isFilled]

@[simp] theorem tombstoneCount_replicate (count : Nat) :
    tombstoneCount (Array.replicate count (Slot.empty : Slot κ ν)) = 0 := by
  simp [tombstoneCount, Slot.isRemoved]

/-- The slot an entry of a rebuild goes to: the first empty slot of its key's sequence. -/
theorem placeAll_cons (map : HashMap κ ν) {key : κ} {value : ν} {rest : List (κ × ν)}
    {index : Nat}
    (first : (probes map.probing (map.hasher.hash key) slots mask).find? (emptyAt slots) =
      some index) :
    map.placeAll mask slots ((key, value) :: rest) =
      map.placeAll mask (slots.setIfInBounds index (.occupied key value)) rest := by
  simp only [placeAll, firstEmpty_eq_find?]
  rw [show Probing.sequence.go mask (map.probing.bound slots.size)
    (map.probing.start (map.hasher.hash key)) = probes map.probing (map.hasher.hash key) slots mask
    from rfl, first]
  rfl

/-- Rebuilding puts every entry into a sound table with room for them: the table stays sound and
gains exactly those entries, one filled slot each. -/
theorem placeAll_spec (map : HashMap κ ν) (lawful : map.hasher.Lawful) (shaped : Shaped slots mask)
    (sound : TableSound map.hasher map.probing slots mask) {entries : List (κ × ν)}
    (distinct : entries.Pairwise fun a b => map.hasher.equal a.1 b.1 = false)
    (fresh : ∀ entry ∈ entries, ∀ {slot : Nat} {stored : κ} {other : ν},
      slots[slot]? = some (.occupied stored other) → map.hasher.equal stored entry.1 = false)
    (room : filledCount slots + entries.length < slots.size) :
    TableSound map.hasher map.probing (map.placeAll mask slots entries) mask ∧
      (entriesOf (map.placeAll mask slots entries)).Perm (entries ++ entriesOf slots) ∧
      filledCount (map.placeAll mask slots entries) = filledCount slots + entries.length ∧
      tombstoneCount (map.placeAll mask slots entries) = tombstoneCount slots ∧
      (map.placeAll mask slots entries).size = slots.size := by
  induction entries generalizing slots with
  | nil => simp [placeAll, sound]
  | cons entry rest inductionHypothesis =>
    obtain ⟨key, value⟩ := entry
    rw [List.length_cons] at room
    -- the table has an empty slot, so the key's sequence meets one
    obtain ⟨empty, isEmpty⟩ :=
      exists_empty_of_filledCount_lt (show filledCount slots < slots.size by omega)
    obtain ⟨index, first⟩ := Option.isSome_iff_exists.mp
      (find?_emptyAt_isSome map.probing (map.hasher.hash key) shaped isEmpty)
    have wasEmpty := emptyAt_of_find? first
    rw [placeAll_cons map first]
    have placed := @inductionHypothesis (slots.setIfInBounds index (.occupied key value))
      (shaped_setIfInBounds.mpr shaped)
      (sound.occupy lawful first (fresh (key, value) List.mem_cons_self))
      (List.pairwise_cons.mp distinct).2 ?fresh
      (by rw [filledCount_occupy wasEmpty]; simp only [Array.size_setIfInBounds]; omega)
    case fresh =>
      intro entry member slot stored other atSlot
      rw [Array.getElem?_setIfInBounds] at atSlot
      split at atSlot
      · split at atSlot <;> cases atSlot
        exact (List.pairwise_cons.mp distinct).1 entry member
      · exact fresh entry (List.mem_cons_of_mem _ member) atSlot
    obtain ⟨placedSound, placedEntries, placedFilled, placedTombstones, placedSize⟩ := placed
    refine ⟨placedSound, ?_, ?_, ?_, ?_⟩
    · refine placedEntries.trans ?_
      refine (List.Perm.append_left rest (entriesOf_occupy wasEmpty)).trans ?_
      simp [List.perm_middle]
    · rw [placedFilled, filledCount_occupy wasEmpty, List.length_cons]
      omega
    · rw [placedTombstones, tombstoneCount_occupy wasEmpty]
    · rw [placedSize, Array.size_setIfInBounds]

end Rebuild

end HashMap

end HeapKit
