import HeapKit.Proofs.Memory.DetectorFrame

/-!
# The leak check runs once

A leak check looks at the blocks in use once. If some are, it reports the error with their count
and bytes and a line for each block of the tracking backend's list, and answers that error. It
then closes what was kept alive for it, the latest first, and under the fail-on-leak setting it
aborts only after that. A run of the detector and closing the allocator both check, and
whichever comes first does it.

The detector's own operations are computed exactly, with `record` for what they add to the
journal (`checkLeaks_run`, `releaseKept_run`, `runLeakCheck_first`, `close_open`). A run of calls
(`runCalls`) is then split at its first check. Before it every call keeps the detector's share,
apart from what it keeps alive (`runCalls_quiet`); the check does what `Call.run_firstCheck`
says; after it every call keeps the check marked as run and closes nothing
(`runCalls_afterCheck`), and every free is a `Release` (`Call.release_run`).
-/

namespace HeapKit.Memory

namespace Allocator


theorem appendList_assoc {γ : Type} (items : Array γ) (first second : List γ) :
    items ++ first ++ second = items ++ (first ++ second) :=
  Array.ext' (by simp)

/-- The allocator with reports and the names of closed objects added to its journal. -/
def record (reports closed : List String) (allocator : Allocator) : Allocator :=
  { allocator with journal := { allocator.journal with
      reports := allocator.journal.reports ++ reports,
      closed := allocator.journal.closed ++ closed } }

section Record

variable (reports closed : List String) (allocator : Allocator)

@[simp] theorem record_reporter : (record reports closed allocator).reporter = allocator.reporter := rfl

@[simp] theorem record_settings : (record reports closed allocator).settings = allocator.settings := rfl

theorem record_record (reports' closed' : List String) :
    record reports' closed' (record reports closed allocator) =
      record (reports ++ reports') (closed ++ closed') allocator := by
  simp only [record, appendList_assoc]

theorem record_nil : record [] [] allocator = allocator := rfl

theorem record_setDetector (kept : Option (Array KeptAlive)) :
    ({ record reports closed allocator with detector := kept } : Allocator) =
      record reports closed { allocator with detector := kept } :=
  rfl

theorem reportError_run (message : String) :
    (reportError message).run.run allocator =
      (.ok (), record [allocator.reporter.render .error message []] [] allocator) :=
  rfl

end Record

/-- A loop each of whose steps goes on and only adds to the journal. -/
theorem run_forIn_records {γ : Type} (items : List γ) (body : γ → PUnit → AllocM (ForInStep PUnit))
    (reports : Reporter → γ → List String) (closed : γ → List String)
    (step : ∀ item allocator, (body item ⟨⟩).run.run allocator =
      (.ok (.yield ⟨⟩), record (reports allocator.reporter item) (closed item) allocator))
    (allocator : Allocator) :
    (forIn items ⟨⟩ body).run.run allocator =
      (.ok ⟨⟩, record (items.flatMap (reports allocator.reporter)) (items.flatMap closed) allocator) := by
  induction items generalizing allocator with
  | nil => exact congrArg _ (record_nil allocator).symm
  | cons item rest inductionHypothesis =>
    rw [List.forIn_cons, run_bind, step]
    dsimp only
    rw [inductionHypothesis, record_record, record_reporter]
    rfl

/-- The error of a leak check that finds blocks in use: their count and their bytes. -/
def leakError (allocator : Allocator) : MemError :=
  { cause := .leak allocator.usage.blocks allocator.usage.inUse }

/-- The line of a block the leak check finds in use. -/
def leakedLine (reporter : Reporter) (info : BlockInfo) : String :=
  reporter.render .warn "leaked block"
    [("tag", info.tag), ("len", toString info.length), ("addr", addressName info.address)]

/-- What a leak check reports: nothing when no block is in use, and otherwise the error, then
one line per block of the tracking backend's list. -/
def leakReport (allocator : Allocator) : List String :=
  if allocator.usage.blocks = 0 then []
  else allocator.reporter.render .error ("Error: " ++ (leakError allocator).message) [] ::
    (allocator.memlist.getD []).map (leakedLine allocator.reporter)

theorem checkLeaks_run (allocator : Allocator) :
    checkLeaks.run.run allocator =
      (.ok (if allocator.usage.blocks = 0 then none else some (leakError allocator)),
        record (leakReport allocator) [] allocator) := by
  unfold checkLeaks
  rw [run_bind, run_get]
  dsimp only
  split
  · rename_i none
    simp only [beq_iff_eq] at none
    simp only [leakReport, none, if_true]
    rfl
  · rename_i some
    simp only [beq_iff_eq] at some
    rw [run_bind, reportError_run]
    dsimp only
    rw [run_bind, run_forIn_records _ _ (fun reporter info => [leakedLine reporter info]) (fun _ => [])
      (fun _ _ => rfl)]
    have noNames : (allocator.memlist.getD []).flatMap (fun _ => ([] : List String)) = [] :=
      List.flatMap_eq_nil_iff.2 fun _ _ => rfl
    simp only [leakReport, some, if_false, record_record, ← List.map_eq_flatMap, noNames,
      List.nil_append, List.singleton_append]
    rfl

/-- The name of a kept object that is a closer. -/
def closedName : KeptAlive → List String
  | .closer name _ => [name]
  | .value _ => []

/-- The warning about a kept closer that fails to close. -/
def closeWarning (reporter : Reporter) : KeptAlive → List String
  | .closer name true =>
    [reporter.render .warn "closing kept-alive data failed" [("err", "close " ++ name ++ " failed")]]
  | _ => []

/-- Releasing the kept objects empties the detector's list and closes the closers, the latest
first, with a warning for each that fails. -/
theorem releaseKept_run (allocator : Allocator) :
    let released := (allocator.detector.getD #[]).toList.reverse
    releaseKept.run.run allocator =
      (.ok (), record (released.flatMap (closeWarning allocator.reporter)) (released.flatMap closedName)
        { allocator with detector := allocator.detector.map fun _ => #[] }) := by
  intro released
  unfold releaseKept
  rw [run_bind, run_get]
  dsimp only
  rw [run_bind, run_modify]
  dsimp only
  rw [run_bind, run_forIn_records _ _ closeWarning closedName ?step]
  · rfl
  case step =>
    intro item current
    cases item with
    | closer name failing => cases failing <;> rfl
    | value name => rfl

/-- What the first leak check answers: nothing when no block is in use, and otherwise the leak
error, or an abort with its message under the fail-on-leak setting. -/
def checkOutcome (allocator : Allocator) : Except Fault (Option MemError) :=
  if allocator.usage.blocks = 0 then .ok none
  else if allocator.settings.failOnLeak then .error (.abort (leakError allocator).message)
  else .ok (some (leakError allocator))

theorem runLeakCheck_ran {allocator : Allocator} (ran : allocator.leakRan = true) :
    runLeakCheck.run.run allocator = (.ok none, allocator) := by
  unfold runLeakCheck
  rw [run_bind, run_get]
  simp only [ran, if_true]
  rfl

/-- The first leak check reports the leak, then releases what was kept, and only then aborts
under the fail-on-leak setting. -/
theorem runLeakCheck_first {allocator : Allocator} (fresh : allocator.leakRan = false) :
    let released := (allocator.detector.getD #[]).toList.reverse
    runLeakCheck.run.run allocator =
      (checkOutcome allocator,
        record (leakReport allocator ++ released.flatMap (closeWarning allocator.reporter))
          (released.flatMap closedName)
          { allocator with leakRan := true, detector := allocator.detector.map fun _ => #[] }) := by
  intro released
  have marked : { allocator with leakRan := true }.usage = allocator.usage := rfl
  have reported : leakReport { allocator with leakRan := true } = leakReport allocator := rfl
  have error : leakError { allocator with leakRan := true } = leakError allocator := rfl
  unfold runLeakCheck
  rw [run_bind, run_get]
  simp only [fresh, Bool.false_eq_true, if_false]
  rw [run_bind, run_modify]
  dsimp only
  rw [run_bind, checkLeaks_run]
  dsimp only
  rw [run_bind, releaseKept_run, record_setDetector, record_record]
  simp only [marked, reported, error, checkOutcome]
  by_cases empty : allocator.usage.blocks = 0
  · simp only [empty, if_true]
    rfl
  · simp only [empty, if_false, run_bind, run_get, record_settings]
    by_cases failing : allocator.settings.failOnLeak = true
    · simp only [failing, if_true]
      rfl
    · simp only [failing]
      rfl


theorem run_tryCatch {α : Type} (body : AllocM α) (handler : Fault → AllocM α) (allocator : Allocator) :
    (tryCatch body handler).run.run allocator =
      match body.run.run allocator with
      | (.ok answer, next) => (.ok answer, next)
      | (.error fault, next) => (handler fault).run.run next := by
  show (ExceptT.tryCatch body handler).run.run allocator = _
  rw [ExceptT.tryCatch, ExceptT.run_mk, StateT.run_bind, show ExceptT.run body = body from rfl]
  rcases StateT.run body allocator with ⟨_ | answer, next⟩ <;> rfl

/-- The allocator with its metrics withdrawn. -/
def withdrawn (allocator : Allocator) : Allocator :=
  { allocator with metrics := allocator.metrics.map fun metrics => { metrics with registered := false } }

/-- Closing an open allocator runs the leak check, if it has a detector, and then withdraws the
metrics, also when the check aborts. -/
theorem close_open {allocator : Allocator} (notClosed : allocator.closed = false) :
    let checked := (if allocator.detector.isSome then runLeakCheck else pure none).run.run
      { allocator with closed := true }
    close.run.run allocator = (checked.1, withdrawn checked.2) := by
  intro checked
  unfold close
  rw [run_bind, run_get]
  simp only [notClosed, Bool.false_eq_true, if_false]
  rw [run_bind, run_modify]
  dsimp only
  rw [run_bind, run_tryCatch, run_bind, run_get]
  dsimp only [checked]
  rcases (if allocator.detector.isSome = true then runLeakCheck else pure none).run.run
    { allocator with closed := true } with ⟨_ | answer, next⟩ <;> rfl

theorem close_closed {allocator : Allocator} (closed : allocator.closed = true) :
    close.run.run allocator = (.ok none, allocator) := by
  unfold close
  rw [run_bind, run_get]
  simp only [closed, if_true]
  rfl

/-! ### Runs of calls -/

/-- What a call answers. -/
inductive Reply where
  | block (result : Except MemError Block)
  | released (error : Option MemError)
  | kept
  | checked (error : Option MemError)

/-- A call of the allocator's interface: the allocations, the releases, keeping an object alive
for the leak detector, running the check, and closing the allocator. -/
inductive Call where
  | malloc (size : Int) (tag : String)
  | mallocAligned (size alignment : Int) (tag : String)
  | calloc (size : Int) (tag : String)
  | mallocArray (count size : Int) (tag : String)
  | callocArray (count size : Int) (tag : String)
  | construct (element : ElementType) (value : List UInt8) (tag : String)
  | newArray (element : ElementType) (count : Int) (tag : String)
  | free (block : Block)
  | destroy (element : ElementType) (address : Option Nat)
  | freeArray (element : ElementType) (address : Option Nat) (capacity : Nat)
  | destroyArray (element : ElementType) (address : Option Nat) (capacity : Nat)
  | keepAlive (item : KeptAlive)
  | runCheck
  | close

namespace Call

/-- The operation a call makes. -/
def run : Call → AllocM Reply
  | malloc size tag => return .block (← Allocator.malloc size tag)
  | mallocAligned size alignment tag => return .block (← Allocator.mallocAligned size alignment tag)
  | calloc size tag => return .block (← Allocator.calloc size tag)
  | mallocArray count size tag => return .block (← Allocator.mallocArray count size tag)
  | callocArray count size tag => return .block (← Allocator.callocArray count size tag)
  | construct element value tag => return .block (← Allocator.construct element value tag)
  | newArray element count tag => return .block (← Allocator.newArray element count tag)
  | free block => return .released (← freeRaw block)
  | destroy element address => return .released (← Allocator.destroy element address)
  | freeArray element address capacity => return .released (← Allocator.freeArray element address capacity)
  | destroyArray element address capacity =>
    return .released (← Allocator.destroyArray element address capacity)
  | keepAlive item => do Allocator.keepAlive item; return .kept
  | runCheck => return .checked (← runLeakCheck)
  | close => return .checked (← Allocator.close)

/-- Whether a call runs the leak check, unless it has run. -/
def checks : Call → Bool
  | runCheck | close => true
  | _ => false

/-- What a call keeps alive for the leak detector. -/
def kept : Call → List KeptAlive
  | keepAlive item => [item]
  | _ => []

/-- Whether a call frees a block: every free and destroy, and the array releases of a nonzero
capacity. -/
def releasesBlock : Call → Bool
  | free _ | destroy _ _ => true
  | freeArray _ _ capacity | destroyArray _ _ capacity => capacity != 0
  | _ => false

end Call

/-- Runs calls one after another: a call that fails is answered with its fault, and the next call
goes on from the state it left. -/
def runCalls : List Call → Allocator → List (Except Fault Reply) × Allocator
  | [], allocator => ([], allocator)
  | call :: calls, allocator =>
    let step := call.run.run.run allocator
    let rest := runCalls calls step.2
    (step.1 :: rest.1, rest.2)

theorem detectorState_keepNothing (allocator : Allocator) :
    { detectorState allocator with kept := allocator.detector.map (· ++ ([] : List KeptAlive)) } =
      detectorState allocator := by
  simp [detectorState]

/-- Every allocation and release keeps the detector's share. -/
theorem Call.keeps_run {call : Call} (quiet : call.checks = false) (keepsNothing : call.kept = []) :
    KeepsDetector call.run := by
  cases call with
  | malloc | mallocAligned | calloc =>
    exact ((ignores_allocateRaw _ _ _ _ _).bind fun _ => ignores_pure _).keeps
  | mallocArray | callocArray =>
    exact ((ignores_sizedAllocation fun _ => ignores_allocateRaw _ _ _ _ _).bind fun _ => ignores_pure _).keeps
  | construct => exact ((ignores_construct _ _ _).bind fun _ => ignores_pure _).keeps
  | newArray => exact ((ignores_newArray _ _ _).bind fun _ => ignores_pure _).keeps
  | free => exact (release_free _ _).keeps.bind fun _ => (ignores_pure _).keeps
  | destroy => exact (release_destroy _ _).keeps.bind fun _ => (ignores_pure _).keeps
  | freeArray => exact (keeps_freeArray _ _ _).bind fun _ => (ignores_pure _).keeps
  | destroyArray => exact (keeps_destroyArray _ _ _).bind fun _ => (ignores_pure _).keeps
  | keepAlive => cases keepsNothing
  | runCheck | close => cases quiet

/-- A call that does not run the check leaves the detector's share as it found it, apart from
what it keeps alive. -/
theorem Call.detectorState_run {call : Call} (quiet : call.checks = false) (allocator : Allocator) :
    detectorState (call.run.run.run allocator).2 =
      { detectorState allocator with kept := allocator.detector.map (· ++ call.kept) } := by
  cases keeping : call.kept with
  | nil => rw [Call.keeps_run quiet keeping allocator, detectorState_keepNothing]
  | cons item rest =>
    cases call with
    | keepAlive => cases keeping; rfl
    | _ => cases keeping

/-- Before the check, a run leaves the detector's share as it found it, apart from what its calls
keep alive. -/
theorem runCalls_quiet {calls : List Call} (quiet : ∀ call ∈ calls, call.checks = false)
    (allocator : Allocator) :
    detectorState (runCalls calls allocator).2 =
      { detectorState allocator with kept := allocator.detector.map (· ++ calls.flatMap Call.kept) } := by
  induction calls generalizing allocator with
  | nil => exact (detectorState_keepNothing allocator).symm
  | cons call rest inductionHypothesis =>
    have step := Call.detectorState_run (quiet call (by simp)) allocator
    have kept : (call.run.run.run allocator).2.detector =
        allocator.detector.map (fun items : Array KeptAlive => items ++ call.kept) :=
      congrArg DetectorState.kept step
    show detectorState (runCalls rest (call.run.run.run allocator).2).2 = _
    rw [inductionHypothesis (fun other member => quiet other (by simp [member])), step, kept,
      Option.map_map, List.flatMap_cons]
    simp only [Function.comp_def, appendList_assoc]

/-- After the check every call keeps it marked as run and closes nothing, and every later check
or close answers that nothing leaked. -/
theorem Call.run_afterCheck (call : Call) {allocator : Allocator} (ran : allocator.leakRan = true) :
    let next := call.run.run.run allocator
    next.2.leakRan = true ∧ next.2.journal.closed = allocator.journal.closed ∧
      (call.checks = true → next.1 = .ok (.checked none)) := by
  intro next
  cases quiet : call.checks
  · have step := Call.detectorState_run quiet allocator
    exact ⟨(congrArg DetectorState.leakRan step).trans ran, congrArg DetectorState.closedNames step,
      fun never => by cases never⟩
  · cases call with
    | runCheck =>
      have answered : next = (.ok (.checked none), allocator) := by
        simp only [next, Call.run, run_bind, runLeakCheck_ran ran]
        rfl
      rw [answered]
      exact ⟨ran, rfl, fun _ => rfl⟩
    | close =>
      have checkedNothing : ∀ current : Allocator, current.leakRan = true →
          ((if current.detector.isSome then runLeakCheck else pure none).run.run current) = (.ok none, current) := by
        intro current currentRan
        split
        · exact runLeakCheck_ran currentRan
        · rfl
      cases closedFlag : allocator.closed
      · have answered : next = (.ok (.checked none), withdrawn { allocator with closed := true }) := by
          simp only [next, Call.run, run_bind, close_open closedFlag, checkedNothing { allocator with closed := true } ran]
          rfl
        rw [answered]
        exact ⟨ran, rfl, fun _ => rfl⟩
      · have answered : next = (.ok (.checked none), allocator) := by
          simp only [next, Call.run, run_bind, close_closed closedFlag]
          rfl
        rw [answered]
        exact ⟨ran, rfl, fun _ => rfl⟩
    | _ => cases quiet

/-- After the check, a run keeps it marked as run and closes nothing. -/
theorem runCalls_afterCheck (calls : List Call) {allocator : Allocator} (ran : allocator.leakRan = true) :
    (runCalls calls allocator).2.leakRan = true ∧
      (runCalls calls allocator).2.journal.closed = allocator.journal.closed := by
  induction calls generalizing allocator with
  | nil => exact ⟨ran, rfl⟩
  | cons call rest inductionHypothesis =>
    obtain ⟨stillRan, sameClosed, -⟩ := call.run_afterCheck ran
    obtain ⟨finallyRan, finallyClosed⟩ := inductionHypothesis stillRan
    exact ⟨finallyRan, finallyClosed.trans sameClosed⟩

theorem run_bind_pure {α β : Type} (operation : AllocM α) (answer : α → β) (allocator : Allocator) :
    (operation >>= fun value => pure (answer value)).run.run allocator =
      ((operation.run.run allocator).1.map answer, (operation.run.run allocator).2) := by
  rw [run_bind]
  rcases operation.run.run allocator with ⟨_ | value, next⟩ <;> rfl

/-- The first check, by a run of the detector or by closing the allocator, answers what the check
finds, reports it, releases what was kept the latest first, and leaves the counters alone. -/
theorem Call.run_firstCheck {check : Call} (checks : check.checks = true) {allocator : Allocator}
    (fresh : allocator.leakRan = false) (notClosed : allocator.closed = false)
    (enabled : allocator.detector.isSome = true) :
    let next := check.run.run.run allocator
    let released := (allocator.detector.getD #[]).toList.reverse
    next.1 = (checkOutcome allocator).map Reply.checked ∧
      next.2.journal.reports =
        allocator.journal.reports ++ (leakReport allocator ++ released.flatMap (closeWarning allocator.reporter)) ∧
      next.2.journal.closed = allocator.journal.closed ++ released.flatMap closedName ∧
      next.2.backend = allocator.backend ∧ next.2.leakRan = true := by
  intro next released
  cases check with
  | runCheck =>
    have answered := run_bind_pure runLeakCheck Reply.checked allocator
    rw [runLeakCheck_first fresh] at answered
    exact ⟨congrArg Prod.fst answered, congrArg (·.2.journal.reports) answered,
      congrArg (·.2.journal.closed) answered, congrArg (·.2.backend) answered, congrArg (·.2.leakRan) answered⟩
  | close =>
    have answered := run_bind_pure Allocator.close Reply.checked allocator
    rw [close_open notClosed] at answered
    dsimp only at answered
    rw [if_pos enabled, runLeakCheck_first (show ({ allocator with closed := true } : Allocator).leakRan = false from fresh)] at answered
    exact ⟨congrArg Prod.fst answered, congrArg (·.2.journal.reports) answered,
      congrArg (·.2.journal.closed) answered, congrArg (·.2.backend) answered, congrArg (·.2.leakRan) answered⟩
  | _ => cases checks

/-- A call that frees a block is a release. -/
theorem Call.release_run {call : Call} (releases : call.releasesBlock = true) : Release call.run := by
  cases call with
  | free => exact (release_free _ _).bind fun _ => ignores_pure _
  | destroy => exact (release_destroy _ _).bind fun _ => ignores_pure _
  | freeArray _ _ capacity =>
    exact (release_freeArray _ _ (by simpa [Call.releasesBlock] using releases)).bind fun _ => ignores_pure _
  | destroyArray _ _ capacity =>
    exact (release_destroyArray _ _ (by simpa [Call.releasesBlock] using releases)).bind fun _ => ignores_pure _
  | _ => cases releases

/-- The leak detector checks once. Take an allocator with a detector whose check has not run and
that is not closed, and a run whose first check, by a run of the detector or by closing the
allocator, comes after the calls `before`. That check answers nothing when no block is in use,
and otherwise the leak error with the blocks and bytes in use, or an abort with its message under
the fail-on-leak setting. It reports the error and one line per block of the tracking backend's
list, then closes every closer kept alive before it exactly once, the latest first, warning about
each that fails, and it changes no counter. From then on the names of the closed objects stay as
they are, every check answers that nothing leaked, and every free does what it did before the
check, apart from reporting that it came after the check. -/
theorem leak_check_runs_once {start : Allocator} {kept : Array KeptAlive}
    (enabled : start.detector = some kept) (unchecked : start.leakRan = false)
    (notClosed : start.closed = false) {before after : List Call} {check : Call}
    (quiet : ∀ call ∈ before, call.checks = false) (checks : check.checks = true) :
    let reached := (runCalls before start).2
    let checked := check.run.run.run reached
    let released := (kept.toList ++ before.flatMap Call.kept).reverse
    checked.1 = (checkOutcome reached).map Reply.checked ∧
      checked.2.journal.reports =
        reached.journal.reports ++ (leakReport reached ++ released.flatMap (closeWarning reached.reporter)) ∧
      checked.2.journal.closed = start.journal.closed ++ released.flatMap closedName ∧
      checked.2.backend = reached.backend ∧
      ∀ n, let current := (runCalls (after.take n) checked.2).2
        current.journal.closed = checked.2.journal.closed ∧
        ∀ call : Call,
          (call.checks = true → (call.run.run.run current).1 = .ok (.checked none)) ∧
          (call.releasesBlock = true → call.run.run.run current =
            ((call.run.run.run (lateFreeReported current)).1,
              { (call.run.run.run (lateFreeReported current)).2 with leakRan := true })) := by
  intro reached checked released
  have share := runCalls_quiet quiet start
  have reachedKept : reached.detector = some (kept ++ before.flatMap Call.kept) := by
    rw [show reached.detector = _ from congrArg DetectorState.kept share]
    simp [enabled]
  have reachedNames : reached.journal.closed = start.journal.closed :=
    congrArg DetectorState.closedNames share
  have releasedKept : (reached.detector.getD #[]).toList.reverse = released := by
    simp [reachedKept, released]
  obtain ⟨answer, reports, closed, backend, ran⟩ := Call.run_firstCheck checks
    ((congrArg DetectorState.leakRan share).trans unchecked) ((congrArg DetectorState.closed share).trans notClosed)
    (by rw [reachedKept]; rfl)
  refine ⟨answer, ?_, ?_, backend, fun n => ?_⟩
  · rw [reports, releasedKept]
  · rw [closed, reachedNames, releasedKept]
  · obtain ⟨currentRan, currentClosed⟩ := runCalls_afterCheck (after.take n) ran
    exact ⟨currentClosed, fun call => ⟨(call.run_afterCheck currentRan).2.2,
      fun releases => (Call.release_run releases).afterCheck _ currentRan⟩⟩

theorem leak_check_runs_once_after_leak :
    let start : Allocator := { detector := some #[] }
    let before : List Call := [.malloc 8 "leaky", .keepAlive (.closer "cache" false)]
    let check : Call := .runCheck
    let after : List Call := [.close]
    (start.detector = some #[] ∧ start.leakRan = false ∧ start.closed = false ∧
      (∀ call ∈ before, call.checks = false) ∧ check.checks = true) ∧
    let reached := (runCalls before start).2
    let checked := check.run.run.run reached
    let released := ((#[] : Array KeptAlive).toList ++ before.flatMap Call.kept).reverse
    checked.1 = (checkOutcome reached).map Reply.checked ∧
      checked.2.journal.reports =
        reached.journal.reports ++ (leakReport reached ++ released.flatMap (closeWarning reached.reporter)) ∧
      checked.2.journal.closed = start.journal.closed ++ released.flatMap closedName ∧
      checked.2.backend = reached.backend ∧
      ∀ n, let current := (runCalls (after.take n) checked.2).2
        current.journal.closed = checked.2.journal.closed ∧
        ∀ call : Call,
          (call.checks = true → (call.run.run.run current).1 = .ok (.checked none)) ∧
          (call.releasesBlock = true → call.run.run.run current =
            ((call.run.run.run (lateFreeReported current)).1,
              { (call.run.run.run (lateFreeReported current)).2 with leakRan := true })) := by
  intro start before check after
  have quiet : ∀ call ∈ before, call.checks = false := by decide
  exact ⟨⟨rfl, rfl, rfl, quiet, rfl⟩, leak_check_runs_once rfl rfl rfl quiet rfl⟩

end Allocator

end HeapKit.Memory
