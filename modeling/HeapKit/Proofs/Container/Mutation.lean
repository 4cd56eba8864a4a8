import HeapKit.Container.Storage

/-!
# Running container operations

A `Mutation` is run on a container and a provider's state and ends in an outcome and both of them
again. The lemmas here evaluate its primitives on a given state and take a bind apart by the
outcome of its first part, so that a container operation is followed step by step, each step by
its own lemma. Obtaining storage changes only the provider's state, refused or not (`run_obtain`):
an operation that fails while obtaining storage leaves its container as it was.
-/

namespace HeapKit
namespace Mutation
variable {σ γ α β : Type}

@[simp] theorem run_container (state : γ × σ) :
    (container : Mutation σ γ γ).run.run state = (.ok state.1, state) := rfl

@[simp] theorem run_setContainer (value : γ) (state : γ × σ) :
    (setContainer value : Mutation σ γ Unit).run.run state = (.ok (), (value, state.2)) := rfl

@[simp] theorem run_modifyContainer (change : γ → γ) (state : γ × σ) :
    (modifyContainer change : Mutation σ γ Unit).run.run state =
      (.ok (), (change state.1, state.2)) := rfl

@[simp] theorem run_get (state : γ × σ) :
    (get : Mutation σ γ (γ × σ)).run.run state = (.ok state, state) := rfl

@[simp] theorem run_pure (answer : α) (state : γ × σ) :
    (pure answer : Mutation σ γ α).run.run state = (.ok answer, state) := rfl

theorem run_bind (first : Mutation σ γ α) (rest : α → Mutation σ γ β) (state : γ × σ) :
    (first >>= rest).run.run state =
      match first.run.run state with
      | (.ok answer, next) => (rest answer).run.run next
      | (.error fault, next) => (.error fault, next) := by
  simp only [ExceptT.run_bind, StateT.run_bind]
  rcases first.run.run state with ⟨_ | answer, next⟩ <;> rfl

theorem run_map (change : α → β) (first : Mutation σ γ α) (state : γ × σ) :
    (change <$> first).run.run state =
      match first.run.run state with
      | (.ok answer, next) => (.ok (change answer), next)
      | (.error fault, next) => (.error fault, next) := by
  simp only [ExceptT.run_map, StateT.run_map]
  rcases first.run.run state with ⟨_ | answer, next⟩ <;> rfl

/-- Obtaining storage changes the provider's state only, whether it is refused or not. -/
theorem run_obtain (provider : Provider σ) (accounted : Bool) (count size : Nat) (state : γ × σ) :
    ∃ outcome storage,
      (obtain provider accounted count size : Mutation σ γ Nat).run.run state =
        (outcome, (state.1, storage)) := by
  cases accounted with
  | true =>
    obtain ⟨value, storage⟩ := state
    unfold obtain
    rw [if_pos rfl, run_bind, run_get]
    dsimp only
    split <;> exact ⟨_, _, rfl⟩
  | false =>
    unfold obtain check
    generalize Bounds.storage count size = checked
    rcases checked with _ | _ <;> exact ⟨_, state.2, rfl⟩

@[simp] theorem run_giveBack (provider : Provider σ) (accounted : Bool) (address : Nat)
    (state : γ × σ) :
    (giveBack provider accounted address : Mutation σ γ Unit).run.run state =
      (.ok (), (state.1, if accounted then provider.giveBack address state.2 else state.2)) := by
  cases accounted <;> rfl

/-! ### Runs that fail without a change -/

/-- Every run of `operation` from the container `start` either fails and leaves the container as
it was, or succeeds with an answer and a container that `post` holds of. -/
def Ends (operation : Mutation σ γ α) (start : γ) (post : α → γ → Prop) : Prop :=
  ∀ storage : σ, match operation.run.run (start, storage) with
    | (.ok answer, (next, _)) => post answer next
    | (.error _, (next, _)) => next = start

/-- Every run of `operation` from the container `start` succeeds, with an answer and a container
that `post` holds of. -/
def Returns (operation : Mutation σ γ α) (start : γ) (post : α → γ → Prop) : Prop :=
  ∀ storage : σ, ∃ answer next rest, operation.run.run (start, storage) = (.ok answer, (next, rest)) ∧
    post answer next

variable {operation : Mutation σ γ α} {start : γ} {post : α → γ → Prop}

theorem Returns.ends (returns : Returns operation start post) : Ends operation start post := by
  intro storage
  obtain ⟨answer, next, rest, ran, holds⟩ := returns storage
  rw [ran]
  exact holds

theorem Ends.mono {weaker : α → γ → Prop} (ends : Ends operation start post)
    (implies : ∀ answer next, post answer next → weaker answer next) :
    Ends operation start weaker := by
  intro storage
  have ended := ends storage
  revert ended
  rcases operation.run.run (start, storage) with ⟨_ | answer, next, rest⟩
  · exact id
  · exact implies answer next

theorem Returns.mono {weaker : α → γ → Prop} (returns : Returns operation start post)
    (implies : ∀ answer next, post answer next → weaker answer next) :
    Returns operation start weaker := by
  intro storage
  obtain ⟨answer, next, rest, ran, holds⟩ := returns storage
  exact ⟨answer, next, rest, ran, implies answer next holds⟩

theorem Returns.bind {rest : α → Mutation σ γ β} {final : β → γ → Prop}
    (first : Returns operation start post)
    (after : ∀ answer next, post answer next → Returns (rest answer) next final) :
    Returns (operation >>= rest) start final := by
  intro storage
  obtain ⟨answer, next, provided, ran, holds⟩ := first storage
  obtain ⟨result, last, remaining, ranRest, holdsRest⟩ := after answer next holds provided
  refine ⟨result, last, remaining, ?_, holdsRest⟩
  rw [run_bind, ran]
  exact ranRest

/-- A run that may fail only at its start: once its first part has succeeded, the rest
always does. -/
theorem Ends.bind {rest : α → Mutation σ γ β} {final : β → γ → Prop}
    (first : Ends operation start post)
    (after : ∀ answer next, post answer next → Returns (rest answer) next final) :
    Ends (operation >>= rest) start final := by
  intro storage
  have ended := first storage
  rw [run_bind]
  revert ended
  rcases operation.run.run (start, storage) with ⟨_ | answer, next, provided⟩
  · exact id
  · intro holds
    obtain ⟨result, last, remaining, ranRest, holdsRest⟩ := after answer next holds provided
    simp only [ranRest]
    exact holdsRest

theorem Ends.ite {condition : Prop} [Decidable condition] {yes no : Mutation σ γ α}
    (ifYes : condition → Ends yes start post) (ifNo : ¬condition → Ends no start post) :
    Ends (if condition then yes else no) start post := by
  by_cases holds : condition
  · rw [if_pos holds]
    exact ifYes holds
  · rw [if_neg holds]
    exact ifNo holds

/-- A choice between two first parts that go on alike, as `do` blocks unfold it. -/
theorem Ends.ite_bind {condition : Prop} [Decidable condition] {yes no : Mutation σ γ α}
    {rest : α → Mutation σ γ β} {final : β → γ → Prop}
    (first : Ends (if condition then yes else no) start post)
    (after : ∀ answer next, post answer next → Returns (rest answer) next final) :
    Ends (if condition then yes >>= rest else no >>= rest) start final := by
  by_cases holds : condition
  · rw [if_pos holds] at first ⊢
    exact first.bind after
  · rw [if_neg holds] at first ⊢
    exact first.bind after

/-- Reading the container first: the rest runs from the same container. -/
theorem Ends.container_bind {rest : γ → Mutation σ γ β} {final : β → γ → Prop}
    (after : Ends (rest start) start final) : Ends (container >>= rest) start final := by
  intro storage
  rw [run_bind, run_container]
  exact after storage

theorem Returns.container_bind {rest : γ → Mutation σ γ β} {final : β → γ → Prop}
    (after : Returns (rest start) start final) : Returns (container >>= rest) start final := by
  intro storage
  rw [run_bind, run_container]
  exact after storage

theorem Ends.map {change : α → β} {final : β → γ → Prop} (ends : Ends operation start post)
    (implies : ∀ answer next, post answer next → final (change answer) next) :
    Ends (change <$> operation) start final := by
  intro storage
  have ended := ends storage
  rw [run_map]
  revert ended
  rcases operation.run.run (start, storage) with ⟨_ | answer, next, rest⟩
  · exact id
  · exact implies answer next

theorem returns_pure (answer : α) : Returns (pure answer : Mutation σ γ α) start
    fun result next => result = answer ∧ next = start :=
  fun storage => ⟨answer, start, storage, rfl, rfl, rfl⟩

@[simp] theorem check_ok (value : α) : (check (.ok value) : Mutation σ γ α) = pure value := rfl

/-- A run that only answers meets whatever holds of its answer and the unchanged container. -/
theorem returns_pure_of {answer : α} (holds : post answer start) :
    Returns (pure answer : Mutation σ γ α) start post :=
  fun storage => ⟨answer, start, storage, rfl, holds⟩

/-- A run that only answers keeps whatever held of the container. -/
theorem returns_pure_keeps {keeps : γ → Prop} (holds : keeps start) (answer : α) :
    Returns (pure answer : Mutation σ γ α) start fun _ next => keeps next :=
  returns_pure_of holds

/-- A step taken only under a condition, then the same rest either way, as `do` blocks with a
one-armed `if` unfold. -/
theorem Returns.ite_then {condition : Prop} [Decidable condition] {first : Mutation σ γ PUnit}
    {rest : PUnit → Mutation σ γ β} {keeps : γ → Prop} {final : β → γ → Prop} (holds : keeps start)
    (firstKeeps : Returns first start fun _ next => keeps next)
    (after : ∀ next, keeps next → Returns (rest ()) next final) :
    Returns (if condition then first >>= rest else rest ()) start final := by
  by_cases taken : condition
  · rw [if_pos taken]
    exact firstKeeps.bind fun _ next kept => after next kept
  · rw [if_neg taken]
    exact after start holds

theorem returns_container : Returns (container : Mutation σ γ γ) start
    fun result next => result = start ∧ next = start :=
  fun storage => ⟨start, start, storage, rfl, rfl, rfl⟩

theorem returns_setContainer (value : γ) : Returns (setContainer value : Mutation σ γ Unit) start
    fun _ next => next = value :=
  fun storage => ⟨(), value, storage, rfl, rfl⟩

theorem returns_modifyContainer (change : γ → γ) :
    Returns (modifyContainer change : Mutation σ γ Unit) start fun _ next => next = change start :=
  fun storage => ⟨(), change start, storage, rfl, rfl⟩

theorem returns_giveBack (provider : Provider σ) (accounted : Bool) (address : Nat) :
    Returns (giveBack provider accounted address : Mutation σ γ Unit) start
      fun _ next => next = start :=
  fun storage => ⟨(), start, _, run_giveBack provider accounted address (start, storage), rfl⟩

theorem ends_obtain (provider : Provider σ) (accounted : Bool) (count size : Nat) :
    Ends (obtain provider accounted count size : Mutation σ γ Nat) start fun _ next => next = start := by
  intro storage
  obtain ⟨outcome, rest, ran⟩ := run_obtain provider accounted count size (start, storage)
  rw [ran]
  rcases outcome with _ | _ <;> rfl

/-! ### Runs that fail only where storage is refused -/

/-- The fault with which a request for `count` elements of `size` bytes is refused, if it is:
accounted storage is refused by the provider, plain storage when its size cannot be
represented. -/
def refusal (provider : Provider σ) (accounted : Bool) (count size : Nat) (storage : σ) :
    Option Fault :=
  if accounted then
    match (provider.obtain count size storage).1 with
    | .error fault => some fault
    | .ok _ => none
  else
    match Bounds.storage count size with
    | .error error => some (.bounds error)
    | .ok () => none

/-- The run of `operation` from the container `start` and the provider state `storage` either
fails with a fault that `refused` allows, leaving the container as it was, or succeeds with an
answer and a container that `post` holds of. -/
def RunsTo (operation : Mutation σ γ α) (start : γ) (storage : σ) (refused : Fault → Prop)
    (post : α → γ → Prop) : Prop :=
  match operation.run.run (start, storage) with
  | (.ok answer, (next, _)) => post answer next
  | (.error fault, (next, _)) => next = start ∧ refused fault

variable {storage : σ} {refused : Fault → Prop}

theorem Returns.runsTo (returns : Returns operation start post) :
    RunsTo operation start storage refused post := by
  obtain ⟨answer, next, rest, ran, holds⟩ := returns storage
  unfold RunsTo
  rw [ran]
  exact holds

theorem RunsTo.mono {weaker : α → γ → Prop} {wider : Fault → Prop}
    (runs : RunsTo operation start storage refused post)
    (implies : ∀ answer next, post answer next → weaker answer next)
    (widens : ∀ fault, refused fault → wider fault) :
    RunsTo operation start storage wider weaker := by
  unfold RunsTo at runs ⊢
  revert runs
  rcases operation.run.run (start, storage) with ⟨_ | answer, next, rest⟩
  · exact fun ⟨unchanged, allowed⟩ => ⟨unchanged, widens _ allowed⟩
  · exact implies answer next

/-- A run whose first part may be refused and whose rest always succeeds. -/
theorem RunsTo.bind {rest : α → Mutation σ γ β} {final : β → γ → Prop}
    (first : RunsTo operation start storage refused post)
    (after : ∀ answer next, post answer next → Returns (rest answer) next final) :
    RunsTo (operation >>= rest) start storage refused final := by
  unfold RunsTo at first ⊢
  rw [run_bind]
  revert first
  rcases operation.run.run (start, storage) with ⟨_ | answer, next, provided⟩
  · exact id
  · intro holds
    obtain ⟨result, last, remaining, ranRest, holdsRest⟩ := after answer next holds provided
    simp only [ranRest]
    exact holdsRest

theorem RunsTo.container_bind {rest : γ → Mutation σ γ β} {final : β → γ → Prop}
    (after : RunsTo (rest start) start storage refused final) :
    RunsTo (container >>= rest) start storage refused final := by
  unfold RunsTo at after ⊢
  rw [run_bind, run_container]
  exact after

theorem RunsTo.ite {condition : Prop} [Decidable condition] {yes no : Mutation σ γ α}
    (ifYes : condition → RunsTo yes start storage refused post)
    (ifNo : ¬condition → RunsTo no start storage refused post) :
    RunsTo (if condition then yes else no) start storage refused post := by
  by_cases holds : condition
  · rw [if_pos holds]
    exact ifYes holds
  · rw [if_neg holds]
    exact ifNo holds

/-- A step taken only under a condition, then the same rest either way, as `do` blocks with a
one-armed `if` unfold: only the conditional step may be refused. -/
theorem RunsTo.ite_then {condition : Prop} [Decidable condition] {first : Mutation σ γ PUnit}
    {rest : PUnit → Mutation σ γ β} (middle : γ → Prop) {final : β → γ → Prop}
    (ifTaken : condition → RunsTo first start storage refused fun _ next => middle next)
    (ifSkipped : ¬condition → middle start)
    (after : ∀ next, middle next → Returns (rest ()) next final) :
    RunsTo (if condition then first >>= rest else rest ()) start storage refused final := by
  by_cases taken : condition
  · rw [if_pos taken]
    exact (ifTaken taken).bind fun _ next holds => after next holds
  · rw [if_neg taken]
    exact (after start (ifSkipped taken)).runsTo

/-- Obtaining storage fails exactly with its refusal, and changes no container. -/
theorem runsTo_obtain (provider : Provider σ) (accounted : Bool) (count size : Nat) :
    RunsTo (obtain provider accounted count size : Mutation σ γ Nat) start storage
      (fun fault => refusal provider accounted count size storage = some fault)
      fun _ next => next = start := by
  unfold RunsTo refusal
  cases accounted with
  | true =>
    unfold obtain
    rw [if_pos rfl, run_bind, run_get]
    rcases granted : provider.obtain count size storage with ⟨_ | address, next⟩
    · simp only [granted]
      exact ⟨rfl, rfl⟩
    · simp only [granted]
      rfl
  | false =>
    unfold obtain check
    rcases Bounds.storage count size with _ | _
    · exact ⟨rfl, rfl⟩
    · rfl

/-- Running an operation on a part of the container: the part runs from where `split` takes it
apart, and what comes back is rebuilt. -/
theorem run_focus {δ : Type} (split : γ → δ × (δ → γ)) (inner : Mutation σ δ α) (state : γ × σ) :
    (focus split inner).run.run state =
      ((inner.run.run ((split state.1).1, state.2)).1,
        ((split state.1).2 (inner.run.run ((split state.1).1, state.2)).2.1,
          (inner.run.run ((split state.1).1, state.2)).2.2)) := rfl

/-- An operation on a part of the container that puts back the part as taken when it is not
changed: a refused run leaves the container as it was. -/
theorem RunsTo.focus {δ : Type} {split : γ → δ × (δ → γ)} {inner : Mutation σ δ α}
    {innerPost : α → δ → Prop} (runs : RunsTo inner (split start).1 storage refused innerPost)
    (restores : (split start).2 (split start).1 = start) :
    RunsTo (focus split inner) start storage refused
      fun answer next => ∃ part, innerPost answer part ∧ next = (split start).2 part := by
  unfold RunsTo at runs ⊢
  rw [run_focus]
  revert runs
  rcases inner.run.run ((split start).1, storage) with ⟨_ | answer, part, rest⟩
  · rintro ⟨unchanged, allowed⟩
    refine ⟨?_, allowed⟩
    rw [unchanged]
    exact restores
  · intro holds
    exact ⟨part, holds, rfl⟩

/-! ### Runs that keep an invariant when they fail -/

/-- Every run of `operation` from the container `start` either fails and leaves a container that
`kept` holds of, or succeeds with an answer and a container that `post` holds of. Unlike `Ends`, a
failed run may have changed the container, as an operation that undoes part of its work does. -/
def Settles (operation : Mutation σ γ α) (start : γ) (kept : γ → Prop) (post : α → γ → Prop) :
    Prop :=
  ∀ storage : σ, match operation.run.run (start, storage) with
    | (.ok answer, (next, _)) => post answer next
    | (.error _, (next, _)) => kept next

variable {kept failed : γ → Prop}

theorem Returns.settles (returns : Returns operation start post) :
    Settles operation start kept post := by
  intro storage
  obtain ⟨answer, next, rest, ran, holds⟩ := returns storage
  rw [ran]
  exact holds

/-- A run that may be refused, from a container that the invariant holds of; what may refuse it
may depend on the provider's state. -/
theorem RunsTo.settles {refusedAt : σ → Fault → Prop}
    (runs : ∀ storage, RunsTo operation start storage (refusedAt storage) post)
    (holds : kept start) : Settles operation start kept post := by
  intro storage
  have ran := runs storage
  unfold RunsTo at ran
  revert ran
  rcases operation.run.run (start, storage) with ⟨_ | answer, next, rest⟩
  · rintro ⟨rfl, -⟩
    exact holds
  · exact id

theorem Ends.runsTo (ends : Ends operation start post) (storage : σ) :
    RunsTo operation start storage (fun _ => True) post := by
  have ended := ends storage
  unfold RunsTo
  revert ended
  rcases operation.run.run (start, storage) with ⟨_ | answer, next, rest⟩
  · exact fun unchanged => ⟨unchanged, trivial⟩
  · exact id

theorem Settles.mono {weaker : α → γ → Prop} (settles : Settles operation start kept post)
    (implies : ∀ answer next, post answer next → weaker answer next) :
    Settles operation start kept weaker := by
  intro storage
  have settled := settles storage
  revert settled
  rcases operation.run.run (start, storage) with ⟨_ | answer, next, rest⟩
  · exact id
  · exact implies answer next

theorem Settles.container_bind {rest : γ → Mutation σ γ β} {final : β → γ → Prop}
    (after : Settles (rest start) start kept final) : Settles (container >>= rest) start kept final := by
  intro storage
  rw [run_bind, run_container]
  exact after storage

theorem Settles.bind {rest : α → Mutation σ γ β} {final : β → γ → Prop}
    (first : Settles operation start kept post)
    (after : ∀ answer next, post answer next → Settles (rest answer) next kept final) :
    Settles (operation >>= rest) start kept final := by
  intro storage
  have settled := first storage
  rw [run_bind]
  revert settled
  rcases operation.run.run (start, storage) with ⟨_ | answer, next, provided⟩
  · exact id
  · intro holds
    exact after answer next holds provided

theorem Settles.map {change : α → β} {final : β → γ → Prop}
    (settles : Settles operation start kept post)
    (implies : ∀ answer next, post answer next → final (change answer) next) :
    Settles (change <$> operation) start kept final := by
  intro storage
  have settled := settles storage
  rw [run_map]
  revert settled
  rcases operation.run.run (start, storage) with ⟨_ | answer, next, rest⟩
  · exact id
  · exact implies answer next

theorem settles_throw (fault : Fault) (holds : kept start) :
    Settles (throw fault : Mutation σ γ α) start kept post :=
  fun _ => holds

theorem run_tryCatch (body : Mutation σ γ α) (handler : Fault → Mutation σ γ α) (state : γ × σ) :
    (tryCatch body handler).run.run state =
      match body.run.run state with
      | (.ok answer, next) => (.ok answer, next)
      | (.error fault, next) => (handler fault).run.run next := by
  show (ExceptT.tryCatch body handler).run.run state = _
  rw [ExceptT.tryCatch, ExceptT.run_mk, StateT.run_bind, show ExceptT.run body = body from rfl]
  rcases StateT.run body state with ⟨_ | answer, next⟩ <;> rfl

/-- A handled run: where the body fails, the handler runs from the container it left. -/
theorem Settles.tryCatch {handler : Fault → Mutation σ γ α}
    (first : Settles operation start failed post)
    (handled : ∀ fault next, failed next → Settles (handler fault) next kept post) :
    Settles (tryCatch operation handler) start kept post := by
  intro storage
  have settled := first storage
  rw [run_tryCatch]
  revert settled
  rcases operation.run.run (start, storage) with ⟨_ | answer, next, provided⟩
  · exact fun holds => handled _ next holds provided
  · exact id

end Mutation
end HeapKit
