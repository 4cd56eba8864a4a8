import HeapKit.Proofs.Memory.Operations
import HeapKit.Memory.Leak

/-!
# What the leak detector's share of the allocator does not see

The allocator keeps four things for its leak detector: whether the check has run, whether the
allocator was closed, what is kept alive until the check, and the names of what has been closed
(`DetectorState`). Only the detector's own operations change them, and of the rest only a free
reads one of them: it reports a free made after the check.

`Commutes change p q` says that `p`, run from a changed allocator, returns what `q` returns from
the allocator itself and leaves the change of what `q` leaves. An operation that commutes in
this way with every replacement of the detector's share `IgnoresDetector`. The lemmas follow the
structure of the programs (a bind, a read of the state, a change of it, a loop), and every
allocation, every block error and report, and every part of a free after its first check
ignores the detector. Such an operation keeps the share as it found it (`detectorState_run`).

A free after the check differs from the same free before it only by its report. `AfterCheck p`
says so of `p`: from an allocator whose check has run, `p` does what it does from the allocator
as it was before the check with that report made, and the check stays marked as run. Every free,
destroy and array release that reaches a block is such a program.
-/

namespace HeapKit.Memory

namespace Allocator

/-- The leak detector's share of an allocator: whether the check has run, whether the allocator
was closed, what is kept alive until the check, and the names of what has been closed. -/
structure DetectorState where
  leakRan : Bool
  closed : Bool
  kept : Option (Array KeptAlive)
  closedNames : Array String

/-- The detector's share of an allocator. -/
def detectorState (allocator : Allocator) : DetectorState :=
  ⟨allocator.leakRan, allocator.closed, allocator.detector, allocator.journal.closed⟩

/-- The allocator with its detector share replaced. -/
def withDetector (state : DetectorState) (allocator : Allocator) : Allocator :=
  { allocator with leakRan := state.leakRan, closed := state.closed, detector := state.kept,
                   journal := { allocator.journal with closed := state.closedNames } }

section Share

variable (state : DetectorState) (allocator : Allocator)

@[simp] theorem detectorState_withDetector : detectorState (withDetector state allocator) = state := rfl

@[simp] theorem withDetector_detectorState : withDetector (detectorState allocator) allocator = allocator :=
  rfl

@[simp] theorem withDetector_settings : (withDetector state allocator).settings = allocator.settings := rfl

@[simp] theorem withDetector_reporter : (withDetector state allocator).reporter = allocator.reporter := rfl

@[simp] theorem withDetector_space : (withDetector state allocator).space = allocator.space := rfl

@[simp] theorem withDetector_source : (withDetector state allocator).source = allocator.source := rfl

@[simp] theorem withDetector_backend : (withDetector state allocator).backend = allocator.backend := rfl

@[simp] theorem withDetector_switched : (withDetector state allocator).switched = allocator.switched := rfl

@[simp] theorem withDetector_leakRan : (withDetector state allocator).leakRan = state.leakRan := rfl

@[simp] theorem usage_withDetector : (withDetector state allocator).usage = allocator.usage := rfl

end Share

/-! ### Programs that commute with a change of state -/

/-- Run from `change allocator`, `p` returns what `q` returns from `allocator` and leaves the
change of what `q` leaves. -/
def Commutes {α : Type} (change : Allocator → Allocator) (p q : AllocM α) : Prop :=
  ∀ allocator, p.run.run (change allocator) =
    ((q.run.run allocator).1, change (q.run.run allocator).2)

/-- An operation that neither reads nor changes the detector's share. -/
def IgnoresDetector {α : Type} (operation : AllocM α) : Prop :=
  ∀ state, Commutes (withDetector state) operation operation

variable {α β : Type} {change : Allocator → Allocator}

/-- An operation that ignores the detector leaves its share as it found it. -/
theorem detectorState_run {operation : AllocM α} (ignores : IgnoresDetector operation)
    (allocator : Allocator) : detectorState (operation.run.run allocator).2 = detectorState allocator := by
  have blind := ignores (detectorState allocator) allocator
  rw [withDetector_detectorState] at blind
  rw [blind, detectorState_withDetector]

theorem commutes_pure (value : α) : Commutes change (pure value) (pure value) := fun _ => rfl

theorem commutes_throw (fault : Fault) : Commutes change (throw fault : AllocM α) (throw fault) :=
  fun _ => rfl

theorem Commutes.bind {p q : AllocM α} {f g : α → AllocM β} (first : Commutes change p q)
    (rest : ∀ value, Commutes change (f value) (g value)) : Commutes change (p >>= f) (q >>= g) := by
  intro allocator
  rw [run_bind, run_bind, first allocator]
  rcases q.run.run allocator with ⟨_ | value, next⟩
  · rfl
  · exact rest value next

/-- A read of the state: the two sides go on from the changed and the unchanged allocator. -/
theorem commutes_get_bind {f g : Allocator → AllocM α}
    (rest : ∀ allocator, Commutes change (f (change allocator)) (g allocator)) :
    Commutes change (get >>= f) (get >>= g) := by
  intro allocator
  rw [run_bind, run_bind, run_get, run_get]
  exact rest allocator allocator

/-- A read of the state whose result the change does not affect. -/
theorem commutes_get_bind_of_reads {f : Allocator → AllocM α}
    (rest : ∀ allocator, Commutes change (f allocator) (f allocator))
    (reads : ∀ allocator, f (change allocator) = f allocator) :
    Commutes change (get >>= f) (get >>= f) :=
  commutes_get_bind fun allocator => by
    rw [reads]
    exact rest allocator

theorem commutes_modify {update : Allocator → Allocator}
    (swaps : ∀ allocator, update (change allocator) = change (update allocator)) :
    Commutes change (modify update) (modify update) := by
  intro allocator
  rw [run_modify, run_modify, swaps]

theorem commutes_set {next : Allocator} (next' : Allocator) (same : next = change next') :
    Commutes change (set next) (set next') := by
  intro allocator
  rw [run_set, run_set, same]

theorem Commutes.ite {condition : Prop} [Decidable condition] {p q p' q' : AllocM α}
    (yes : condition → Commutes change p q) (no : ¬condition → Commutes change p' q') :
    Commutes change (if condition then p else p') (if condition then q else q') := by
  split
  · exact yes ‹_›
  · exact no ‹_›

theorem commutes_forIn {γ : Type} (items : List γ) (body : γ → PUnit → AllocM (ForInStep PUnit))
    (each : ∀ item current, Commutes change (body item current) (body item current)) (current : PUnit) :
    Commutes change (forIn items current body) (forIn items current body) := by
  induction items generalizing current with
  | nil => exact commutes_pure current
  | cons item rest inductionHypothesis =>
    rw [List.forIn_cons]
    refine (each item current).bind fun step => ?_
    cases step with
    | done => exact commutes_pure _
    | yield next => exact inductionHypothesis next

theorem ignores_pure (value : α) : IgnoresDetector (pure value) := fun _ => commutes_pure value

theorem ignores_throw (fault : Fault) : IgnoresDetector (throw fault : AllocM α) :=
  fun _ => commutes_throw fault

theorem IgnoresDetector.bind {p : AllocM α} {f : α → AllocM β} (first : IgnoresDetector p)
    (rest : ∀ value, IgnoresDetector (f value)) : IgnoresDetector (p >>= f) :=
  fun state => (first state).bind fun value => rest value state

/-- A read of the state that goes on alike whatever the detector's share. -/
theorem ignores_get_bind {f : Allocator → AllocM α} (rest : ∀ allocator, IgnoresDetector (f allocator))
    (reads : ∀ state allocator, f (withDetector state allocator) = f allocator) :
    IgnoresDetector (get >>= f) :=
  fun state => commutes_get_bind_of_reads (fun allocator => rest allocator state) (reads state)

theorem ignores_modify {update : Allocator → Allocator}
    (swaps : ∀ state allocator, update (withDetector state allocator) = withDetector state (update allocator)) :
    IgnoresDetector (modify update) :=
  fun state => commutes_modify (swaps state)

theorem IgnoresDetector.ite {condition : Prop} [Decidable condition] {p p' : AllocM α}
    (yes : condition → IgnoresDetector p) (no : ¬condition → IgnoresDetector p') :
    IgnoresDetector (if condition then p else p') :=
  fun state => Commutes.ite (fun holds => yes holds state) (fun fails => no fails state)

/-- A step taken only under a condition, then the same rest either way, as `do` blocks with a
one-armed `if` unfold. -/
theorem ignores_ite_then {condition : Prop} [Decidable condition] {first : AllocM PUnit}
    {rest : PUnit → AllocM α} (firstIgnores : IgnoresDetector first)
    (restIgnores : ∀ value, IgnoresDetector (rest value)) :
    IgnoresDetector (if condition then first >>= rest else rest ⟨⟩) :=
  .ite (fun _ => firstIgnores.bind restIgnores) (fun _ => restIgnores ⟨⟩)

theorem ignores_forIn {γ : Type} (items : List γ) (body : γ → PUnit → AllocM (ForInStep PUnit))
    (each : ∀ item current, IgnoresDetector (body item current)) (current : PUnit) :
    IgnoresDetector (forIn items current body) :=
  fun state => commutes_forIn items body (fun item current => each item current state) current

/-! ### Reports and memory -/

theorem ignores_deliver (level : Level) (message : String) (fields : List (String × String)) :
    IgnoresDetector (deliver level message fields) :=
  ignores_modify fun _ _ => rfl

theorem ignores_blockError (reason block message : String) :
    IgnoresDetector (blockError reason block message) := by
  unfold blockError
  refine (ignores_deliver _ _ _).bind fun _ => (ignores_modify fun _ _ => rfl).bind fun _ => ?_
  exact ignores_get_bind (fun _ => .ite (fun _ => ignores_throw _) (fun _ => ignores_pure _))
    (fun _ _ => rfl)

theorem ignores_reportError (message : String) : IgnoresDetector (reportError message) :=
  ignores_deliver _ _ _

theorem ignores_warn (message : String) (fields : List (String × String)) :
    IgnoresDetector (warn message fields) :=
  ignores_deliver _ _ _

theorem ignores_readBytes (address length : Nat) : IgnoresDetector (readBytes address length) :=
  ignores_get_bind (fun _ => ignores_pure _) (fun _ _ => rfl)

theorem ignores_writeBytes (address : Nat) (bytes : List UInt8) :
    IgnoresDetector (writeBytes address bytes) :=
  ignores_modify fun _ _ => rfl

theorem ignores_loadHeader (payload : Nat) : IgnoresDetector (loadHeader payload) :=
  (ignores_readBytes _ _).bind fun _ => ignores_pure _

theorem ignores_storeHeader (payload : Nat) (header : Header) :
    IgnoresDetector (storeHeader payload header) :=
  ignores_writeBytes _ _

theorem ignores_loadTail (payload offset : Nat) : IgnoresDetector (loadTail payload offset) :=
  (ignores_readBytes _ _).bind fun _ => ignores_pure _

theorem ignores_storeTail (payload offset : Nat) (tag : UInt32) :
    IgnoresDetector (storeTail payload offset tag) :=
  ignores_writeBytes _ _

theorem ignores_checkStorage (size : Nat) : IgnoresDetector (checkStorage size) := by
  unfold checkStorage
  split
  · exact ignores_pure _
  · exact ignores_throw _

theorem ignores_reserveArea (size : Nat) : IgnoresDetector (reserveArea size) := by
  intro state
  unfold reserveArea
  refine commutes_get_bind fun allocator => ?_
  simp only [withDetector_space]
  generalize allocator.space.reserve size = reserved
  rcases reserved with ⟨base, space⟩
  exact (commutes_set { allocator with space } rfl).bind fun _ => commutes_pure base

theorem ignores_finalize (address : Nat) : IgnoresDetector (finalize address) :=
  (ignores_readBytes _ _).bind fun _ => ignores_modify fun _ _ => rfl

theorem ignores_isLive (address : Option Nat) : IgnoresDetector (isLive address) := by
  unfold isLive
  split
  · exact ignores_pure _
  · refine ignores_get_bind (fun allocator => ?_) (fun _ _ => rfl)
    split
    · exact .ite (fun _ => ignores_pure _) (fun _ => (ignores_loadHeader _).bind fun _ => ignores_pure _)
    · exact ignores_pure _

/-! ### Sources and new blocks -/

theorem ignores_sourceAlloc (total : Nat) : IgnoresDetector (sourceAlloc total) := by
  unfold sourceAlloc
  refine ignores_get_bind (fun allocator => ?_) (fun _ _ => rfl)
  split
  · exact (ignores_checkStorage _).bind fun _ => (ignores_reserveArea _).bind fun _ => ignores_pure _
  · rename_i chunks _
    refine ignores_ite_then (ignores_checkStorage _) fun _ state => commutes_get_bind fun current => ?_
    simp only [withDetector_space]
    generalize chunks.alloc total current.space = carved
    rcases carved with ⟨address, carvedChunks, space⟩
    exact (commutes_set { current with space, source := .chunk carvedChunks } rfl).bind fun _ =>
      commutes_pure _
  · exact .ite (fun _ => ignores_pure _) (fun _ => (ignores_reserveArea _).bind fun _ => ignores_pure _)

theorem ignores_sourceRelease (base total : Nat) : IgnoresDetector (sourceRelease base total) := by
  intro state
  unfold sourceRelease
  refine commutes_get_bind fun allocator => ?_
  simp only [withDetector_source, withDetector_space]
  split
  · exact commutes_pure _
  · rename_i chunks _
    generalize chunks.release base total allocator.space = released
    rcases released with ⟨releasedChunks, space⟩
    exact commutes_set { allocator with space, source := .chunk releasedChunks } rfl
  · exact commutes_set { allocator with space := allocator.space.unmap base } rfl

theorem ignores_checkLimit (length : Nat) : IgnoresDetector (checkLimit length) :=
  ignores_get_bind (fun _ => .ite (fun _ => ignores_pure _) (fun _ => ignores_pure _)) (fun _ _ => rfl)

theorem ignores_rawRegion (length alignment : Nat) : IgnoresDetector (rawRegion length alignment) := by
  unfold rawRegion
  refine (ignores_checkLimit _).bind fun limited => ?_
  split
  · exact ignores_pure _
  · refine .ite (fun _ => ignores_pure _) (fun _ => (ignores_sourceAlloc _).bind fun based => ?_)
    split
    · exact ignores_pure _
    · exact ignores_pure _

theorem ignores_frameRegion (element : ElementType) (count : Int) :
    IgnoresDetector (frameRegion element count) := by
  unfold frameRegion
  refine .ite (fun _ => ignores_pure _) (fun _ => .ite (fun _ => ignores_pure _) (fun _ => ?_))
  refine (ignores_checkLimit _).bind fun limited => ?_
  split
  · exact ignores_pure _
  · exact (ignores_reserveArea _).bind fun _ => ignores_pure _

theorem ignores_stamp (region : Region) (request : Request) (slot : Nat) :
    IgnoresDetector (stamp region request slot) :=
  (ignores_storeHeader _ _).bind fun _ => ignores_storeTail _ _ _

theorem ignores_enroll (region : Region) (request : Request) : IgnoresDetector (enroll region request) := by
  unfold enroll
  refine ignores_get_bind (fun allocator => ?_) (fun _ _ => rfl)
  split
  · exact (ignores_stamp _ _ _).bind fun _ => ignores_modify fun _ _ => rfl
  · dsimp only
    exact (ignores_stamp _ _ _).bind fun _ => ignores_modify fun _ _ => rfl

theorem ignores_rawRequest (size alignment : Int) (tag : String) (kind : BlockKind) (zeroed : Bool) :
    IgnoresDetector (rawRequest size alignment tag kind zeroed) := by
  unfold rawRequest
  refine .ite (fun _ => (ignores_blockError _ _ _).bind fun _ => ignores_pure _) (fun _ => ?_)
  exact .ite (fun _ => (ignores_blockError _ _ _).bind fun _ => ignores_pure _) (fun _ => ignores_pure _)

theorem ignores_allocateRaw (size alignment : Int) (tag : String) (kind : BlockKind) (zeroed : Bool) :
    IgnoresDetector (allocateRaw size alignment tag kind zeroed) := by
  unfold allocateRaw
  refine (ignores_rawRequest _ _ _ _ _).bind fun requested => ?_
  split
  · exact ignores_pure _
  · refine ignores_get_bind (fun _ => (ignores_rawRegion _ _).bind fun placed => ?_) (fun _ _ => rfl)
    split
    · exact (ignores_blockError _ _ _).bind fun _ => ignores_pure _
    · refine ignores_get_bind (fun _ => ?_) (fun _ _ => rfl)
      exact ignores_ite_then (ignores_modify fun _ _ => rfl)
        fun _ => (ignores_enroll _ _).bind fun _ => ignores_pure _

theorem ignores_arraySize (count size : Int) (tag : String) : IgnoresDetector (arraySize count size tag) :=
  .ite (fun _ => ignores_pure _) (fun _ => (ignores_blockError _ _ _).bind fun _ => ignores_pure _)

/-- An array of bytes: its size is checked, then the byte request is made. -/
theorem ignores_sizedAllocation {count size : Int} {tag : String}
    {allocate : Int → AllocM (Except MemError Block)} (allocateIgnores : ∀ total, IgnoresDetector (allocate total)) :
    IgnoresDetector (arraySize count size tag >>= fun sized =>
      match sized with
      | .error error => pure (.error error)
      | .ok total => allocate total) := by
  refine (ignores_arraySize _ _ _).bind fun sized => ?_
  split
  · exact ignores_pure _
  · exact allocateIgnores _

theorem ignores_allocateFrame (element : ElementType) (count : Int) (tag : String) :
    IgnoresDetector (allocateFrame element count tag) := by
  unfold allocateFrame
  refine ignores_get_bind (fun _ => (ignores_frameRegion _ _).bind fun framed => ?_) (fun _ _ => rfl)
  split
  · exact (ignores_blockError _ _ _).bind fun _ => ignores_pure _
  · exact (ignores_enroll _ _).bind fun _ => ignores_pure _

theorem ignores_construct (element : ElementType) (value : List UInt8) (tag : String) :
    IgnoresDetector (construct element value tag) := by
  unfold construct
  refine (ignores_allocateFrame _ _ _).bind fun framed => ?_
  split
  · exact ignores_pure _
  · exact (ignores_writeBytes _ _).bind fun _ => ignores_pure _

theorem ignores_newArray (element : ElementType) (count : Int) (tag : String) :
    IgnoresDetector (newArray element count tag) :=
  .ite (fun _ => ignores_pure _) (fun _ => ignores_allocateFrame _ _ _)

/-! ### Frees after their first check -/

theorem ignores_checkKind (header : Header) (expected : BlockKind) (block : String) :
    IgnoresDetector (checkKind header expected block) := by
  unfold checkKind
  refine .ite (fun _ => ignores_pure _) (fun _ => ?_)
  split
  · exact (ignores_blockError _ _ _).bind fun _ => ignores_pure _
  · exact (ignores_blockError _ _ _).bind fun _ => ignores_pure _

theorem ignores_retire (header : Header) (payload : Nat) : IgnoresDetector (retire header payload) := by
  unfold retire
  refine ignores_get_bind (fun _ => ignores_ite_then (ignores_modify fun _ _ => rfl) fun _ => ?_)
    (fun _ _ => rfl)
  refine (ignores_storeHeader _ _).bind fun _ => (ignores_storeTail _ _ _).bind fun _ => ?_
  exact .ite (fun _ => ignores_sourceRelease _ _) (fun _ => ignores_pure _)

theorem ignores_freeCounted (counters : Counters) (payload : Nat) (kind : BlockKind) :
    IgnoresDetector (freeCounted counters payload kind) := by
  unfold freeCounted
  refine (ignores_loadHeader _).bind fun header => ?_
  refine .ite (fun _ => (ignores_blockError _ _ _).bind fun _ => ignores_pure _) (fun _ => ?_)
  refine .ite (fun _ => (ignores_blockError _ _ _).bind fun _ => ignores_pure _) (fun _ => ?_)
  refine (ignores_checkKind _ _ _).bind fun _ => (ignores_modify fun _ _ => rfl).bind fun _ => ?_
  exact (ignores_retire _ _).bind fun _ => ignores_pure _

theorem ignores_checkMemlist (list : Memlist) (skip : Nat) : IgnoresDetector (checkMemlist list skip) := by
  unfold checkMemlist
  refine (ignores_forIn _ _ (fun slot _ => ?_) _).bind fun _ => ignores_pure _
  refine .ite (fun _ => (ignores_loadHeader _).bind fun header => ?_) (fun _ => ignores_pure _)
  refine .ite (fun _ => (ignores_blockError _ _ _).bind fun _ => ignores_pure _) (fun _ => ?_)
  refine (ignores_loadTail _ _).bind fun _ => ?_
  exact .ite (fun _ => (ignores_blockError _ _ _).bind fun _ => ignores_pure _) (fun _ => ignores_pure _)

theorem ignores_freeTracked (tracker : Tracker) (payload : Nat) (kind : BlockKind) :
    IgnoresDetector (freeTracked tracker payload kind) := by
  unfold freeTracked
  split
  · split
    · split
      refine (ignores_modify fun _ _ => rfl).bind fun _ => ?_
      split
      · exact (ignores_blockError _ _ _).bind fun _ => ignores_pure _
      · exact (ignores_blockError _ _ _).bind fun _ => ignores_pure _
    · exact (ignores_blockError _ _ _).bind fun _ => ignores_pure _
  · refine (ignores_loadHeader _).bind fun header => ?_
    refine .ite (fun _ => (ignores_blockError _ _ _).bind fun _ =>
      (ignores_checkMemlist _ _).bind fun _ => ignores_pure _) (fun _ => ?_)
    refine (ignores_loadTail _ _).bind fun _ => ?_
    refine .ite (fun _ => (ignores_blockError _ _ _).bind fun _ =>
      (ignores_checkMemlist _ _).bind fun _ => ignores_pure _) (fun _ => ?_)
    refine (ignores_checkKind _ _ _).bind fun _ => (ignores_modify fun _ _ => rfl).bind fun _ => ?_
    exact (ignores_retire _ _).bind fun _ => ignores_pure _

/-! ### Frees after the check -/

/-- The report of a free made after the leak check. -/
@[reducible] def lateFreeMessage : String :=
  "Freeing memory after the leak detector has run. " ++
    "Release long-lived data through LeakDetector.KeepAlive instead."

/-- The allocator as it was before the leak check, with the report of a late free made. -/
def lateFreeReported (allocator : Allocator) : Allocator :=
  ((reportError lateFreeMessage).run.run { allocator with leakRan := false }).2

/-- Run after the leak check, `p` does what it does from the allocator as it was before the check
with the late-free report made, and the check stays marked as run. -/
def AfterCheck (p : AllocM α) : Prop :=
  ∀ allocator, allocator.leakRan = true →
    p.run.run allocator = ((p.run.run (lateFreeReported allocator)).1,
      { (p.run.run (lateFreeReported allocator)).2 with leakRan := true })

theorem withDetector_setLeakRan (allocator : Allocator) (ran : Bool) :
    withDetector { detectorState allocator with leakRan := ran } allocator = { allocator with leakRan := ran } :=
  rfl

/-- An operation that ignores the detector ignores in particular whether the check has run. -/
theorem run_setLeakRan {operation : AllocM α} (ignores : IgnoresDetector operation)
    (allocator : Allocator) (ran : Bool) :
    operation.run.run { allocator with leakRan := ran } =
      ((operation.run.run allocator).1, { (operation.run.run allocator).2 with leakRan := ran }) := by
  have shifted := ignores { detectorState allocator with leakRan := ran } allocator
  have after := withDetector_setLeakRan (operation.run.run allocator).2 ran
  rw [detectorState_run ignores] at after
  rwa [withDetector_setLeakRan, after] at shifted

theorem lateFreeReported_leakRan (allocator : Allocator) : (lateFreeReported allocator).leakRan = false :=
  rfl

/-- After the check, the late-free report is the allocator as it was before the check with the
report made, and the check still marked as run. -/
theorem reportError_lateFree {allocator : Allocator} (ran : allocator.leakRan = true) :
    (reportError lateFreeMessage).run.run allocator =
      (.ok (), { lateFreeReported allocator with leakRan := true }) := by
  cases allocator
  cases ran
  rfl

/-- A free's first check: the late-free report when the leak check has run, then a check of the
address that ignores the detector. -/
theorem precheck_shape (address : Option Nat) :
    ∃ check : AllocM (Option MemError), IgnoresDetector check ∧
      precheck address = get >>= fun allocator =>
        if allocator.leakRan = true then reportError lateFreeMessage >>= fun _ => check else check := by
  refine ⟨_, ?_, rfl⟩
  split
  · exact (ignores_blockError _ _ _).bind fun _ => ignores_pure _
  · exact .ite (fun _ => (ignores_blockError _ _ _).bind fun _ => ignores_pure _) (fun _ => ignores_pure _)

theorem afterCheck_precheck (address : Option Nat) : AfterCheck (precheck address) := by
  intro allocator ran
  obtain ⟨check, ignores, shape⟩ := precheck_shape address
  rw [shape]
  simp only [run_bind, run_get, ran, lateFreeReported_leakRan, if_true, Bool.false_eq_true, if_false]
  rw [reportError_lateFree ran]
  exact run_setLeakRan ignores _ _

theorem AfterCheck.bind {p : AllocM α} {f : α → AllocM β} (first : AfterCheck p)
    (rest : ∀ value, IgnoresDetector (f value)) : AfterCheck (p >>= f) := by
  intro allocator ran
  rw [run_bind, run_bind, first allocator ran]
  rcases (p.run.run (lateFreeReported allocator)) with ⟨_ | value, next⟩
  · rfl
  · exact run_setLeakRan (rest value) next true

/-- A step before the free that never fails, and that neither the detector's share nor the late
report affects, keeps the rest of a release alike after the check. -/
theorem afterCheck_bind_of_commutes {p : AllocM α} {f : α → AllocM β}
    (first : Commutes lateFreeReported p p) (ignores : IgnoresDetector p)
    (succeeds : ∀ allocator, ∃ value, (p.run.run allocator).1 = .ok value)
    (rest : ∀ value, AfterCheck (f value)) : AfterCheck (p >>= f) := by
  intro allocator ran
  obtain ⟨value, result⟩ := succeeds allocator
  have kept := congrArg DetectorState.leakRan (detectorState_run ignores allocator)
  rw [run_bind, run_bind, first allocator]
  rcases running : p.run.run allocator with ⟨_ | value', next⟩
  · rw [running] at result
    cases result
  · rw [running] at kept
    exact rest value' next (kept.trans ran)

theorem commutes_lateFree_readBytes (address length : Nat) :
    Commutes lateFreeReported (readBytes address length) (readBytes address length) :=
  commutes_get_bind_of_reads (fun _ => commutes_pure _) (fun _ => rfl)

theorem commutes_lateFree_isLive (address : Option Nat) :
    Commutes lateFreeReported (isLive address) (isLive address) := by
  unfold isLive
  split
  · exact commutes_pure _
  · refine commutes_get_bind_of_reads (fun allocator => ?_) (fun _ => rfl)
    split
    · exact .ite (fun _ => commutes_pure _)
        (fun _ => ((commutes_lateFree_readBytes _ _).bind fun _ => commutes_pure _).bind fun _ => commutes_pure _)
    · exact commutes_pure _

theorem commutes_lateFree_finalize (address : Nat) :
    Commutes lateFreeReported (finalize address) (finalize address) :=
  (commutes_lateFree_readBytes _ _).bind fun _ => commutes_modify fun _ => rfl

theorem afterCheck_free (block : Block) (kind : BlockKind) : AfterCheck (free block kind) := by
  unfold free
  refine (afterCheck_precheck _).bind fun checked => ?_
  split
  · exact ignores_pure _
  · refine ignores_get_bind (fun allocator => ?_) (fun _ _ => rfl)
    split
    · exact ignores_freeCounted _ _ _
    · exact ignores_freeTracked _ _ _

/-! ### Releases -/

/-- An operation that leaves the detector's share as it found it, though it may read it. -/
def KeepsDetector (operation : AllocM α) : Prop :=
  ∀ allocator, detectorState (operation.run.run allocator).2 = detectorState allocator

theorem IgnoresDetector.keeps {operation : AllocM α} (ignores : IgnoresDetector operation) :
    KeepsDetector operation :=
  detectorState_run ignores

theorem KeepsDetector.bind {p : AllocM α} {f : α → AllocM β} (first : KeepsDetector p)
    (rest : ∀ value, KeepsDetector (f value)) : KeepsDetector (p >>= f) := by
  intro allocator
  have kept := first allocator
  rw [run_bind]
  rcases running : p.run.run allocator with ⟨_ | value, next⟩
  · rw [running] at kept
    exact kept
  · rw [running] at kept
    exact (rest value next).trans kept

theorem KeepsDetector.ite {condition : Prop} [Decidable condition] {p p' : AllocM α}
    (yes : condition → KeepsDetector p) (no : ¬condition → KeepsDetector p') :
    KeepsDetector (if condition then p else p') := by
  split
  · exact yes ‹_›
  · exact no ‹_›

theorem keeps_precheck (address : Option Nat) : KeepsDetector (precheck address) := by
  obtain ⟨check, ignores, shape⟩ := precheck_shape address
  rw [shape]
  intro allocator
  rw [run_bind, run_get]
  exact KeepsDetector.ite (fun _ => (ignores_reportError _).keeps.bind fun _ => ignores.keeps)
    (fun _ => ignores.keeps) allocator

/-- A release keeps the detector's share, and after the check does what it did before, apart
from the late-free report. -/
structure Release (operation : AllocM α) : Prop where
  keeps : KeepsDetector operation
  afterCheck : AfterCheck operation

theorem release_precheck (address : Option Nat) : Release (precheck address) :=
  ⟨keeps_precheck address, afterCheck_precheck address⟩

theorem Release.bind {p : AllocM α} {f : α → AllocM β} (first : Release p)
    (rest : ∀ value, IgnoresDetector (f value)) : Release (p >>= f) :=
  ⟨first.keeps.bind fun value => (rest value).keeps, first.afterCheck.bind rest⟩

/-- A step that never fails and that neither the detector's share nor the late report affects,
followed by a release. -/
theorem release_bind_of_commutes {p : AllocM α} {f : α → AllocM β}
    (first : Commutes lateFreeReported p p) (ignores : IgnoresDetector p)
    (succeeds : ∀ allocator, ∃ value, (p.run.run allocator).1 = .ok value)
    (rest : ∀ value, Release (f value)) : Release (p >>= f) :=
  ⟨ignores.keeps.bind fun value => (rest value).keeps,
    afterCheck_bind_of_commutes first ignores succeeds fun value => (rest value).afterCheck⟩

theorem Release.ite {condition : Prop} [Decidable condition] {p p' : AllocM α}
    (yes : condition → Release p) (no : ¬condition → Release p') :
    Release (if condition then p else p') := by
  split
  · exact yes ‹_›
  · exact no ‹_›

theorem release_free (block : Block) (kind : BlockKind) : Release (free block kind) := by
  unfold free
  refine (release_precheck _).bind fun checked => ?_
  split
  · exact ignores_pure _
  · refine ignores_get_bind (fun allocator => ?_) (fun _ _ => rfl)
    split
    · exact ignores_freeCounted _ _ _
    · exact ignores_freeTracked _ _ _

/-- A typed free, followed by clearing the memory when it succeeded. -/
theorem release_freeThenClear (block : Block) {clear : AllocM PUnit} (clearIgnores : IgnoresDetector clear) :
    Release (free block .typed >>= fun outcome =>
      if outcome.isNone = true then clear >>= fun _ => pure outcome else pure outcome) :=
  (release_free _ _).bind fun _ =>
    .ite (fun _ => clearIgnores.bind fun _ => ignores_pure _) (fun _ => ignores_pure _)

theorem isLive_succeeds (address : Option Nat) (allocator : Allocator) :
    ∃ live, ((isLive address).run.run allocator).1 = .ok live := by
  obtain ⟨live, running⟩ := isLive_run address allocator
  exact ⟨live, by rw [running]⟩

theorem release_destroy (element : ElementType) (address : Option Nat) :
    Release (destroy element address) := by
  unfold destroy
  split
  · exact release_free _ _
  · refine release_bind_of_commutes (commutes_lateFree_isLive _) (ignores_isLive _)
      (isLive_succeeds _) fun live => .ite (fun _ => ?_) (fun _ => release_freeThenClear _ (ignores_writeBytes _ _))
    exact release_bind_of_commutes (commutes_lateFree_finalize _) (ignores_finalize _)
      (fun allocator => ⟨(), (finalize_run_core _ allocator).1⟩)
      fun _ => release_freeThenClear _ (ignores_writeBytes _ _)

theorem release_freeArray (element : ElementType) (address : Option Nat) {capacity : Nat}
    (nonempty : capacity ≠ 0) : Release (freeArray element address capacity) := by
  unfold freeArray
  rw [if_neg (by simpa using nonempty)]
  exact release_freeThenClear _ (ignores_writeBytes _ _)

theorem release_destroyArray (element : ElementType) (address : Option Nat) {capacity : Nat}
    (nonempty : capacity ≠ 0) : Release (destroyArray element address capacity) := by
  unfold destroyArray
  refine release_bind_of_commutes (commutes_lateFree_isLive _) (ignores_isLive _) (isLive_succeeds _)
    fun live => .ite (fun _ => ?_) (fun _ => release_freeArray _ _ nonempty)
  exact release_bind_of_commutes
    (commutes_forIn _ _ (fun _ _ => (commutes_lateFree_finalize _).bind fun _ => commutes_pure _) _)
    (ignores_forIn _ _ (fun _ _ => (ignores_finalize _).bind fun _ => ignores_pure _) _)
    (forIn_finishes _ _ (fun _ _ _ => ⟨_, rfl⟩) _)
    fun _ => release_freeArray _ _ nonempty

theorem keeps_freeArray (element : ElementType) (address : Option Nat) (capacity : Nat) :
    KeepsDetector (freeArray element address capacity) := by
  by_cases empty : capacity = 0
  · subst empty
    exact (ignores_pure _).keeps
  · exact (release_freeArray element address empty).keeps

theorem keeps_destroyArray (element : ElementType) (address : Option Nat) (capacity : Nat) :
    KeepsDetector (destroyArray element address capacity) := by
  by_cases empty : capacity = 0
  · subst empty
    unfold destroyArray
    refine (ignores_isLive _).keeps.bind fun live => .ite (fun _ => ?_) (fun _ => keeps_freeArray _ _ _)
    exact (ignores_forIn _ _ (fun _ _ => (ignores_finalize _).bind fun _ => ignores_pure _) _).keeps.bind
      fun _ => keeps_freeArray _ _ _
  · exact (release_destroyArray element address empty).keeps

end Allocator

end HeapKit.Memory
