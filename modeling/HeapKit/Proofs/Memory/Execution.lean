import HeapKit.Memory.Typed

/-!
# Running allocator operations

An operation in `AllocM` runs from a state to a result and a new state. The
lemmas here take a run apart: a bind runs its first part and, unless that
stopped, the rest from the state it left.

Most of what an operation does on the way is reporting: it appends to the
journal and counts reasons in the metrics. An allocator with those two fields
cleared is its `core`, and an operation that `Reports` only leaves the core as
it found it, whatever it returns. Reports, reads of memory, the checks a free
starts with and the whole loop that checks a tracked list are such operations.
-/

namespace HeapKit.Memory

namespace Allocator

/-! ### Runs -/

@[simp] theorem run_pure {α : Type} (value : α) (allocator : Allocator) :
    (pure value : AllocM α).run.run allocator = (.ok value, allocator) := rfl

theorem run_bind {α β : Type} (first : AllocM α) (rest : α → AllocM β) (allocator : Allocator) :
    (first >>= rest).run.run allocator =
      match first.run.run allocator with
      | (.ok value, next) => (rest value).run.run next
      | (.error fault, next) => (.error fault, next) := by
  rcases running : first.run.run allocator with ⟨_ | value, next⟩ <;>
    simp only [ExceptT.run, StateT.run] at running
  · simp only [ExceptT.run, StateT.run, bind, ExceptT.bind, ExceptT.mk, StateT.bind, ExceptT.bindCont,
      running]
    rfl
  · simp [ExceptT.run, StateT.run, bind, ExceptT.bind, ExceptT.mk, StateT.bind, ExceptT.bindCont, running]

@[simp] theorem run_get (allocator : Allocator) :
    (get : AllocM Allocator).run.run allocator = (.ok allocator, allocator) := rfl

@[simp] theorem run_set (allocator next : Allocator) :
    (set next : AllocM PUnit).run.run allocator = (.ok ⟨⟩, next) := rfl

@[simp] theorem run_modify (change : Allocator → Allocator) (allocator : Allocator) :
    (modify change : AllocM PUnit).run.run allocator = (.ok ⟨⟩, change allocator) := rfl

@[simp] theorem run_throw {α : Type} (fault : Fault) (allocator : Allocator) :
    (throw fault : AllocM α).run.run allocator = (.error fault, allocator) := rfl

/-! ### Reports only -/

/-- The allocator with its reports forgotten: the journal and the metrics. -/
def core (allocator : Allocator) : Allocator := { allocator with journal := {}, metrics := none }

theorem backend_eq_of_core {allocator other : Allocator} (kept : allocator.core = other.core) :
    allocator.backend = other.backend := by
  have sameBackend := congrArg Allocator.backend kept
  exact sameBackend

/-- An operation that changes nothing but the reports. -/
def Reports {α : Type} (operation : AllocM α) : Prop :=
  ∀ allocator, (operation.run.run allocator).2.core = allocator.core

theorem reports_pure {α : Type} (value : α) : Reports (pure value : AllocM α) := fun _ => rfl

theorem reports_get : Reports (get : AllocM Allocator) := fun _ => rfl

theorem reports_throw {α : Type} (fault : Fault) : Reports (throw fault : AllocM α) := fun _ => rfl

theorem Reports.bind {α β : Type} {first : AllocM α} {rest : α → AllocM β} (reportsFirst : Reports first)
    (reportsRest : ∀ value, Reports (rest value)) : Reports (first >>= rest) := by
  intro allocator
  rw [run_bind]
  have kept := reportsFirst allocator
  rcases running : first.run.run allocator with ⟨_ | value, next⟩ <;> rw [running] at kept
  · exact kept
  · exact (reportsRest value next).trans kept

theorem reports_modify_reports (change : Allocator → Allocator)
    (kept : ∀ allocator, (change allocator).core = allocator.core) : Reports (modify change) :=
  fun allocator => kept allocator

theorem reports_deliver (level : Level) (message : String) (fields : List (String × String)) :
    Reports (deliver level message fields) :=
  reports_modify_reports _ fun _ => rfl

theorem reports_blockError (reason block message : String) : Reports (blockError reason block message) := by
  unfold blockError
  refine (reports_deliver _ _ _).bind fun _ => (reports_modify_reports _ ?_).bind fun _ => ?_
  · exact fun _ => rfl
  refine reports_get.bind fun allocator => ?_
  split
  · exact reports_throw _
  · exact reports_pure _

/-- A block error aborts exactly under the abort policy, and changes only the reports. -/
theorem blockError_result (reason block message : String) (allocator : Allocator) :
    ((blockError reason block message).run.run allocator).1 =
      if allocator.reporter.abortOnError then .error (.abort (Reporter.blockMessage block message))
      else .ok () := by
  unfold blockError deliver
  simp only [run_bind, run_modify, run_get]
  split <;> rfl

theorem reports_reportError (message : String) : Reports (reportError message) :=
  reports_deliver _ _ _

theorem reports_readBytes (address length : Nat) : Reports (readBytes address length) :=
  reports_get.bind fun _ => reports_pure _

theorem reports_loadHeader (payload : Nat) : Reports (loadHeader payload) :=
  (reports_readBytes _ _).bind fun _ => reports_pure _

theorem reports_loadTail (payload offset : Nat) : Reports (loadTail payload offset) :=
  (reports_readBytes _ _).bind fun _ => reports_pure _

@[simp] theorem loadHeader_run (payload : Nat) (allocator : Allocator) :
    (loadHeader payload).run.run allocator =
      (.ok (Header.decode (allocator.space.readOrZero (payload - headerSize) headerSize)), allocator) :=
  rfl

@[simp] theorem loadTail_run (payload offset : Nat) (allocator : Allocator) :
    (loadTail payload offset).run.run allocator =
      (.ok (Endian.read32 (allocator.space.readOrZero (payload + offset) 4)), allocator) :=
  rfl

theorem reports_forIn {β : Type} (items : List β) (body : β → PUnit → AllocM (ForInStep PUnit))
    (reportsBody : ∀ item state, Reports (body item state)) (state : PUnit) :
    Reports (forIn items state body) := by
  induction items generalizing state with
  | nil => exact reports_pure _
  | cons item rest inductionHypothesis =>
    rw [List.forIn_cons]
    refine (reportsBody item state).bind fun step => ?_
    cases step with
    | done => exact reports_pure _
    | yield next => exact inductionHypothesis next

/-- Checking a tracked list only reports what it finds. -/
theorem reports_checkMemlist (list : Memlist) (skip : Nat) : Reports (checkMemlist list skip) := by
  unfold checkMemlist
  refine (reports_forIn _ _ (fun slot state => ?_) _).bind fun _ => reports_pure _
  split
  · refine (reports_loadHeader _).bind fun header => ?_
    split
    · exact (reports_blockError _ _ _).bind fun _ => reports_pure _
    · refine (reports_loadTail _ _).bind fun tail => ?_
      split
      · exact (reports_blockError _ _ _).bind fun _ => reports_pure _
      · exact reports_pure _
  · exact reports_pure _

end Allocator

end HeapKit.Memory
