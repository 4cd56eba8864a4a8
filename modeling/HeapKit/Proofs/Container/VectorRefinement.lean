import Mathlib
import HeapKit.Proofs.Container.VectorStorage

/-!
# Vectors refine lists

An edit of a vector (`Vector.Edit`) is matched by an operation on lists (`Edit.spec`): adding at
the end appends, inserting before a position splices the values in, removing erases the element,
removing by swapping sets the place to the last element and drops the last one, resizing truncates
or pads with zero values, and clearing and releasing empty the list. Adding at the front is
inserting before position zero, and clearing with shrinking is releasing.

Along every run of edits from an empty vector (`Vector.Reaches`), each edit within its bounds
(`Edit.Valid`), the vector holds the list its edits build (`Vector.Holds`): its elements are the
list, its length is the list's, the capacity is at least that, and every storage place past the
length holds the zero value. The next edit either fails because its storage request is refused,
leaving the vector as it was, or leaves the list's result (`Edit.Step`), in the capacity growth
gives: unchanged while the elements fit, the larger of the need and twice the capacity otherwise,
and the inline capacity after a release.

The run is a fold of one step lemma, `Edit.run_runsTo`, one case per edit, each the lemma of
`VectorStorage` for it.
-/

namespace HeapKit

namespace Vector

variable {α σ : Type} [Inhabited α]

/-- An edit of a vector as a script gives it. `pushIndexed` adds at the end and answers the
position of the new element; `copy` answers a copy drawing from the same provider. -/
inductive Edit (α : Type) where
  | push (value : α)
  | pushIndexed (value : α)
  | append (values : List α)
  | insert (position : Nat) (values : List α)
  | remove (position : Nat)
  | removeSwap (position : Nat)
  | pop
  | set (position : Nat) (value : α)
  | resize (count : Nat)
  | reserve (count : Int)
  | clear
  | release
  | copy

/-- What an edit answers: a position, an element, a copy, or nothing. -/
inductive Answer (α : Type) where
  | index (position : Int)
  | element (value : α)
  | clone (copy : Vector α)
  | done

namespace Edit

/-- Runs an edit on a vector. -/
def run (provider : Provider σ) : Edit α → Mutation σ (Vector α) (Answer α)
  | push value => do
    Vector.push provider value
    pure .done
  | pushIndexed value => do
    let position := (← Mutation.container).length
    Vector.push provider value
    pure (.index position)
  | append values => do
    Vector.append provider values
    pure .done
  | insert position values => do
    Vector.insert provider position values
    pure .done
  | remove position => do
    Vector.remove position
    pure .done
  | removeSwap position => do
    Vector.removeSwap position
    pure .done
  | pop => Answer.element <$> Vector.pop
  | set position value => do
    let next ← Mutation.check ((← Mutation.container).set position value)
    Mutation.setContainer next
    pure .done
  | resize count => do
    Vector.resize provider count
    pure .done
  | reserve count => do
    Vector.reserve provider count
    pure .done
  | clear => do
    Vector.clear
    pure .done
  | release => do
    Vector.release provider
    pure .done
  | copy => Answer.clone <$> Vector.copy provider

/-- The list an edit leaves. -/
def spec : Edit α → List α → List α
  | push value, items | pushIndexed value, items => items ++ [value]
  | append values, items => items ++ values
  | insert position values, items => items.take position ++ values ++ items.drop position
  | remove position, items => items.eraseIdx position
  | removeSwap position, items => (items.set position (items.getLastD default)).dropLast
  | pop, items => items.dropLast
  | set position value, items => items.set position value
  | resize count, items => items.take count ++ List.replicate (count - items.length) default
  | reserve _, items | copy, items => items
  | clear, _ | release, _ => []

/-- The bounds of an edit on a list: positions within the list, something to remove, and a length
after an insertion within a signed word. -/
def Valid : Edit α → List α → Prop
  | insert position values, items =>
    position ≤ items.length ∧ items.length + values.length < 2 ^ 63
  | remove position, items | removeSwap position, items | set position _, items =>
    position < items.length
  | pop, items => items ≠ []
  | _, _ => True

instance (edit : Edit α) (items : List α) : Decidable (edit.Valid items) := by
  cases edit <;> unfold Valid <;> infer_instance

/-- The number of elements an edit makes room for; as many as there are for edits that do not
add any. -/
def needed : Edit α → List α → Int
  | push _, items | pushIndexed _, items => items.length + 1
  | append values, items | insert _ values, items => items.length + values.length
  | resize count, _ => count
  | reserve count, _ => count
  | _, items => items.length

/-- The vector whose storage an edit grows: a copy grows a fresh vector, the others their own. -/
def grower : Edit α → Vector α → Vector α
  | copy, vector => empty vector.elementSize vector.accounted
  | _, vector => vector

/-- The capacity after an edit: grown for what it needs, or the inline capacity after a release. -/
def capacityAfter : Edit α → Vector α → List α → Nat
  | release, vector, _ => inlineCapacity vector.elementSize
  | copy, vector, _ => vector.capacity
  | edit, vector, items => grownCapacity vector.capacity (edit.needed items)

/-- The answer of an edit on a vector holding `items`. -/
def Answers : Edit α → Vector α → List α → Answer α → Prop
  | pushIndexed _, _, items, answer => answer = .index items.length
  | pop, _, items, answer => answer = .element (items.getLastD default)
  | copy, vector, items, answer => ∃ clone, answer = .clone clone ∧
      Grown (empty vector.elementSize vector.accounted) clone items items.length
  | _, _, _, answer => answer = .done

/-- What an edit of a vector holding `items` leaves: its answer, the list's result, the capacity
`capacityAfter` gives, and the same element size and accounting. -/
structure Step (edit : Edit α) (vector : Vector α) (items : List α) (answer : Answer α)
    (next : Vector α) : Prop where
  answers : edit.Answers vector items answer
  holds : next.Holds (edit.spec items)
  capacity : next.capacity = edit.capacityAfter vector items
  elementSize : next.elementSize = vector.elementSize
  accounted : next.accounted = vector.accounted

/-! ### One edit -/

section Steps

variable (provider : Provider σ) (storage : σ) {vector next : Vector α} {items : List α}
  {answer : Answer α}

omit [Inhabited α] in
/-- A change of the vector followed by the answer `done`. -/
theorem runsTo_done {operation : Mutation σ (Vector α) Unit} {refused : Fault → Prop}
    {post : Vector α → Prop}
    (runs : Mutation.RunsTo operation vector storage refused fun _ next => post next) :
    Mutation.RunsTo (do operation; pure (Answer.done : Answer α)) vector storage refused
      fun answer next => answer = .done ∧ post next :=
  runs.bind fun _ _ holds =>
    Mutation.returns_pure_of ⟨rfl, holds⟩

theorem Step.of_grown {edit : Edit α} (answers : edit.Answers vector items answer)
    (grown : Grown vector next (edit.spec items) (edit.needed items))
    (capacity : edit.capacityAfter vector items = grownCapacity vector.capacity (edit.needed items)) :
    edit.Step vector items answer next :=
  ⟨answers, grown.1, grown.2.1.trans capacity.symm, grown.2.2.1, grown.2.2.2⟩

theorem Step.of_kept {edit : Edit α} (answers : edit.Answers vector items answer)
    (kept : Kept vector next (edit.spec items))
    (capacity : edit.capacityAfter vector items = vector.capacity) :
    edit.Step vector items answer next :=
  ⟨answers, kept.1, kept.2.1.trans capacity.symm, kept.2.2.1, kept.2.2.2⟩

/-- An edit that answers `done` after a change that grows the vector for what it needs takes its
step. -/
theorem runsTo_done_grown {edit : Edit α} {operation : Mutation σ (Vector α) Unit}
    {refused : Fault → Prop} (answers : edit.Answers vector items .done)
    (capacity : edit.capacityAfter vector items = grownCapacity vector.capacity (edit.needed items))
    (runs : Mutation.RunsTo operation vector storage refused
      fun _ next => Grown vector next (edit.spec items) (edit.needed items)) :
    Mutation.RunsTo (do operation; pure (Answer.done : Answer α)) vector storage refused
      (edit.Step vector items) := by
  refine (runsTo_done storage runs).mono ?_ fun _ refused => refused
  rintro _ _ ⟨rfl, grown⟩
  exact Step.of_grown answers grown capacity

/-- An edit that answers `done` after a change that keeps the capacity takes its step. -/
theorem runsTo_done_kept {edit : Edit α} {operation : Mutation σ (Vector α) Unit}
    {refused : Fault → Prop} (answers : edit.Answers vector items .done)
    (capacity : edit.capacityAfter vector items = vector.capacity)
    (runs : Mutation.RunsTo operation vector storage refused
      fun _ next => Kept vector next (edit.spec items)) :
    Mutation.RunsTo (do operation; pure (Answer.done : Answer α)) vector storage refused
      (edit.Step vector items) := by
  refine (runsTo_done storage runs).mono ?_ fun _ refused => refused
  rintro _ _ ⟨rfl, kept⟩
  exact Step.of_kept answers kept capacity

/-- One edit within its bounds, on a vector that holds `items`: only a storage request for growth
can be refused, which leaves the vector as it was; otherwise the edit answers and leaves what the
list operation gives. -/
theorem run_runsTo (holds : vector.Holds items) (edit : Edit α) (valid : edit.Valid items) :
    Mutation.RunsTo (edit.run provider) vector storage
      (Refused provider (edit.grower vector) (edit.needed items) storage)
      (edit.Step vector items) := by
  have fits := holds.length_le
  -- edits that never grow keep the capacity, which is what growing for the length gives
  have keeps : grownCapacity vector.capacity items.length = vector.capacity :=
    grownCapacity_of_le (by exact_mod_cast fits)
  cases edit with
  | push value => exact runsTo_done_grown storage rfl rfl (push_runsTo provider storage holds value)
  | pushIndexed value =>
    apply Mutation.RunsTo.container_bind
    refine (push_runsTo provider storage holds value).bind fun _ _ grown => ?_
    exact Mutation.returns_pure_of (Step.of_grown
      (show Answer.index vector.length = .index items.length by rw [holds.1]) grown rfl)
  | append values =>
    exact runsTo_done_grown storage rfl rfl (append_runsTo provider storage holds values)
  | insert position values =>
    obtain ⟨inside, word⟩ := valid
    exact runsTo_done_grown storage rfl rfl
      (insert_runsTo provider storage holds inside values word)
  | remove position => exact runsTo_done_kept storage rfl keeps (returns_remove holds valid).runsTo
  | removeSwap position =>
    exact runsTo_done_kept storage rfl keeps (returns_removeSwap holds valid).runsTo
  | pop =>
    refine Mutation.Returns.runsTo ?_
    rw [run, ← bind_pure_comp]
    refine (returns_pop holds valid).bind ?_
    rintro value _ ⟨last, kept⟩
    exact Mutation.returns_pure_of (Step.of_kept (by rw [last]; rfl) kept keeps)
  | set position value =>
    refine Mutation.Returns.runsTo ?_
    apply Mutation.Returns.container_bind
    rw [holds.set_eq valid value, Mutation.check_ok, pure_bind]
    refine (Mutation.returns_setContainer _).bind ?_
    rintro _ _ rfl
    exact Mutation.returns_pure_of
      (Step.of_kept rfl ⟨holds.set valid value rfl rfl, Array.size_set! _ _ _, rfl, rfl⟩ keeps)
  | resize count =>
    exact runsTo_done_grown storage rfl rfl (resize_runsTo provider storage holds count)
  | reserve count =>
    exact runsTo_done_grown storage rfl rfl (reserve_runsTo provider storage holds count)
  | clear => exact runsTo_done_kept storage rfl keeps (returns_clear holds).runsTo
  | release =>
    refine (runsTo_done storage (returns_release provider).runsTo).mono ?_ fun _ refused => refused
    rintro _ _ ⟨rfl, rfl⟩
    refine ⟨rfl, holds_empty _ _, ?_, rfl, rfl⟩
    simp [empty, capacity, capacityAfter]
  | copy =>
    rw [run, ← bind_pure_comp]
    refine (copy_runsTo provider storage holds).bind ?_
    rintro clone _ ⟨unchanged, grown⟩
    refine Mutation.returns_pure_of ?_
    rw [unchanged]
    exact ⟨⟨clone, rfl, grown⟩, holds, rfl, rfl, rfl⟩

end Steps

/-- The list after an edit: the list's result when it succeeded, the same list when it failed. -/
def after (edit : Edit α) (items : List α) : Except Fault (Answer α) → List α
  | .ok _ => edit.spec items
  | .error _ => items

end Edit

/-! ### Runs of edits -/

/-- The vectors a run of edits reaches from an empty vector, each edit within its bounds and each
from any state of the provider, with the list the same edits build from the empty list. -/
inductive Reaches (provider : Provider σ) (elementSize : Nat) (accounted : Bool) :
    Vector α → List α → Prop
  | start : Reaches provider elementSize accounted (empty elementSize accounted) []
  | step {vector : Vector α} {items : List α} (edit : Edit α) (storage : σ) :
      Reaches provider elementSize accounted vector items → edit.Valid items →
      Reaches provider elementSize accounted ((edit.run provider).run.run (vector, storage)).2.1
        (edit.after items ((edit.run provider).run.run (vector, storage)).1)

/-- Along every run the vector holds the list, by induction on the run: a refused edit leaves
both as they were, and every other edit is its step lemma. -/
theorem Reaches.holds {provider : Provider σ} {elementSize : Nat} {accounted : Bool}
    {vector : Vector α} {items : List α} (reaches : Reaches provider elementSize accounted vector items) :
    vector.Holds items := by
  induction reaches with
  | start => exact holds_empty elementSize accounted
  | @step vector items edit storage _ valid inductionHypothesis =>
    have stepped := Edit.run_runsTo provider storage inductionHypothesis edit valid
    unfold Mutation.RunsTo at stepped
    revert stepped
    rcases (edit.run provider).run.run (vector, storage) with ⟨_ | answer, next, rest⟩
    · rintro ⟨rfl, -⟩
      exact inductionHypothesis
    · exact fun step => step.holds

end Vector

end HeapKit
