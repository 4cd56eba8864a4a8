import HeapKit.Proofs.Memory.Execution

/-!
# Runs in lockstep

Two allocators that keep their books in different ways can still answer alike. Two runs, one
from each of a pair of states, agree (`Agree`) when they make equally many reports and either
both return one value from states related by `post`, or both stop in states related by
`halted`. `Lockstep pre p q post halted` says this of the programs `p` and `q` from every pair
of states that `pre` relates.

The lemmas build a lockstep along the structure of the programs: a value returned on both sides,
a bind whose parts run in lockstep, a condition both sides decide alike, a read of the state, a
change of state on each side, a report on each side. A relation that only the reports do not
affect is `Stable`; reports and stops are made from stable relations.
-/

namespace HeapKit.Memory

namespace Allocator

/-- The reports an allocator has made. -/
def reportCount (allocator : Allocator) : Nat := allocator.journal.reports.size

/-- Runs from `left` and from `right` agree: both made the same number of reports, and both
returned one value from states related by `post`, or both stopped in states related by
`halted`. -/
structure Agree {α : Type} (post : α → Allocator → Allocator → Prop) (halted : Allocator → Allocator → Prop)
    (left right : Allocator) (leftRun rightRun : Except Fault α × Allocator) : Prop where
  reports : ∃ added, leftRun.2.reportCount = left.reportCount + added ∧
    rightRun.2.reportCount = right.reportCount + added
  outcome : (∃ value, leftRun.1 = .ok value ∧ rightRun.1 = .ok value ∧
      post value leftRun.2 rightRun.2) ∨
    ((∃ fault, leftRun.1 = .error fault) ∧ (∃ fault, rightRun.1 = .error fault) ∧
      halted leftRun.2 rightRun.2)

/-- From any pair of states related by `pre`, the runs of `p` and `q` agree. -/
def Lockstep {α : Type} (pre : Allocator → Allocator → Prop) (p q : AllocM α)
    (post : α → Allocator → Allocator → Prop) (halted : Allocator → Allocator → Prop) : Prop :=
  ∀ left right, pre left right → Agree post halted left right (p.run.run left) (q.run.run right)

/-- A relation between two states that changes of the reports alone keep. -/
def Stable (relation : Allocator → Allocator → Prop) : Prop :=
  ∀ left right left' right', relation left right → left'.core = left.core → right'.core = right.core →
    relation left' right'

variable {α β : Type} {pre : Allocator → Allocator → Prop} {post : α → Allocator → Allocator → Prop}
  {halted : Allocator → Allocator → Prop}

/-! ### Agreeing runs -/

/-- Two runs that return one value and make no report agree. -/
theorem agree_returns {left right : Allocator} {leftNext rightNext : Allocator} (value : α)
    (sameLeft : leftNext.reportCount = left.reportCount)
    (sameRight : rightNext.reportCount = right.reportCount) (holds : post value leftNext rightNext) :
    Agree post halted left right (.ok value, leftNext) (.ok value, rightNext) :=
  ⟨⟨0, sameLeft, sameRight⟩, .inl ⟨value, rfl, rfl, holds⟩⟩

/-- Two runs that stop after equally many reports agree. -/
theorem agree_stops {left right leftNext rightNext : Allocator} {leftFault rightFault : Fault}
    (added : Nat) (leftReports : leftNext.reportCount = left.reportCount + added)
    (rightReports : rightNext.reportCount = right.reportCount + added) (holds : halted leftNext rightNext) :
    Agree post halted left right (.error leftFault, leftNext) (.error rightFault, rightNext) :=
  ⟨⟨added, leftReports, rightReports⟩, .inr ⟨⟨leftFault, rfl⟩, ⟨rightFault, rfl⟩, holds⟩⟩

theorem Agree.mono {post' : α → Allocator → Allocator → Prop} {left right : Allocator}
    {leftRun rightRun : Except Fault α × Allocator} (agree : Agree post halted left right leftRun rightRun)
    (weaker : ∀ value leftNext rightNext, post value leftNext rightNext → post' value leftNext rightNext) :
    Agree post' halted left right leftRun rightRun := by
  obtain ⟨reports, outcome⟩ := agree
  refine ⟨reports, ?_⟩
  rcases outcome with ⟨value, leftOk, rightOk, holds⟩ | stopped
  · exact .inl ⟨value, leftOk, rightOk, weaker _ _ _ holds⟩
  · exact .inr stopped

/-- Agreeing runs agree under weaker relations for the values and for the stops. -/
theorem Agree.imp {post' : α → Allocator → Allocator → Prop} {halted' : Allocator → Allocator → Prop}
    {left right : Allocator} {leftRun rightRun : Except Fault α × Allocator}
    (agree : Agree post halted left right leftRun rightRun)
    (weaker : ∀ value leftNext rightNext, post value leftNext rightNext → post' value leftNext rightNext)
    (weakerHalted : ∀ leftNext rightNext, halted leftNext rightNext → halted' leftNext rightNext) :
    Agree post' halted' left right leftRun rightRun := by
  obtain ⟨reports, outcome⟩ := agree
  refine ⟨reports, ?_⟩
  rcases outcome with ⟨value, leftOk, rightOk, holds⟩ | ⟨leftStops, rightStops, holds⟩
  · exact .inl ⟨value, leftOk, rightOk, weaker _ _ _ holds⟩
  · exact .inr ⟨leftStops, rightStops, weakerHalted _ _ holds⟩

/-- Runs that agree from two states agree from any two states with as many reports. -/
theorem Agree.rebase {left right left' right' : Allocator} {leftRun rightRun : Except Fault α × Allocator}
    (agree : Agree post halted left' right' leftRun rightRun) (leftSame : left'.reportCount = left.reportCount)
    (rightSame : right'.reportCount = right.reportCount) : Agree post halted left right leftRun rightRun := by
  obtain ⟨⟨added, leftReports, rightReports⟩, outcome⟩ := agree
  exact ⟨⟨added, by rw [leftReports, leftSame], by rw [rightReports, rightSame]⟩, outcome⟩

/-- Runs that agree go on to agree when what follows agrees, with the reports of both parts
added up. -/
theorem Agree.bind {middle : α → Allocator → Allocator → Prop} {post : β → Allocator → Allocator → Prop}
    {p q : AllocM α} {f g : α → AllocM β} {left right : Allocator}
    (first : Agree middle halted left right (p.run.run left) (q.run.run right))
    (rest : ∀ value leftNext rightNext, middle value leftNext rightNext →
      Agree post halted leftNext rightNext ((f value).run.run leftNext) ((g value).run.run rightNext)) :
    Agree post halted left right ((p >>= f).run.run left) ((q >>= g).run.run right) := by
  obtain ⟨⟨added, leftReports, rightReports⟩, outcome⟩ := first
  rcases leftRun : p.run.run left with ⟨leftOutcome, leftNext⟩
  rcases rightRun : q.run.run right with ⟨rightOutcome, rightNext⟩
  rw [leftRun] at leftReports outcome
  rw [rightRun] at rightReports outcome
  rw [run_bind, run_bind, leftRun, rightRun]
  dsimp only at leftReports rightReports outcome
  rcases outcome with ⟨value, rfl, rfl, holds⟩ | ⟨⟨leftFault, rfl⟩, ⟨rightFault, rfl⟩, stopped⟩
  · dsimp only
    obtain ⟨⟨later, leftLater, rightLater⟩, restOutcome⟩ := rest value leftNext rightNext holds
    exact ⟨⟨added + later, by omega, by omega⟩, restOutcome⟩
  · exact agree_stops added leftReports rightReports stopped

/-! ### Programs in lockstep -/

theorem Lockstep.mono {pre' : Allocator → Allocator → Prop} {post' : α → Allocator → Allocator → Prop}
    {p q : AllocM α} (lockstep : Lockstep pre p q post halted)
    (stronger : ∀ left right, pre' left right → pre left right)
    (weaker : ∀ value left right, post value left right → post' value left right) :
    Lockstep pre' p q post' halted :=
  fun left right related => (lockstep left right (stronger left right related)).mono weaker

theorem lockstep_pure (value : α) (holds : ∀ left right, pre left right → post value left right) :
    Lockstep pre (pure value) (pure value) post halted :=
  fun left right related => agree_returns value rfl rfl (holds left right related)

theorem Lockstep.bind {middle : α → Allocator → Allocator → Prop} {post : β → Allocator → Allocator → Prop}
    {p q : AllocM α} {f g : α → AllocM β} (first : Lockstep pre p q middle halted)
    (rest : ∀ value, Lockstep (middle value) (f value) (g value) post halted) :
    Lockstep pre (p >>= f) (q >>= g) post halted :=
  fun left right related => (first left right related).bind fun value leftNext rightNext holds =>
    rest value leftNext rightNext holds

/-- Both sides take the same branch of a condition that does not depend on the state. -/
theorem Lockstep.ite {condition : Prop} [Decidable condition] {p q p' q' : AllocM α}
    (yes : condition → Lockstep pre p q post halted) (no : ¬ condition → Lockstep pre p' q' post halted) :
    Lockstep pre (if condition then p else p') (if condition then q else q') post halted := by
  split
  · rename_i holds
    exact yes holds
  · rename_i fails
    exact no fails

/-- A program that reads its state runs in lockstep when, for each pair of related states, the
programs it goes on with agree. -/
theorem lockstep_get {f g : Allocator → AllocM α}
    (rest : ∀ left right, pre left right →
      Agree post halted left right ((f left).run.run left) ((g right).run.run right)) :
    Lockstep pre (get >>= f) (get >>= g) post halted := by
  intro left right related
  rw [run_bind, run_bind, run_get, run_get]
  exact rest left right related

/-- Programs that, on each side, return one value and change the state without a report. -/
theorem lockstep_steps {p q : AllocM α} (value : α) {change change' : Allocator → Allocator}
    (leftRun : ∀ allocator, p.run.run allocator = (.ok value, change allocator))
    (rightRun : ∀ allocator, q.run.run allocator = (.ok value, change' allocator))
    (leftReports : ∀ allocator, (change allocator).journal = allocator.journal)
    (rightReports : ∀ allocator, (change' allocator).journal = allocator.journal)
    (holds : ∀ left right, pre left right → post value (change left) (change' right)) :
    Lockstep pre p q post halted := by
  intro left right related
  rw [leftRun, rightRun]
  refine agree_returns value ?_ ?_ (holds left right related)
  · simp only [reportCount, leftReports]
  · simp only [reportCount, rightReports]

/-- Both sides stop. -/
theorem lockstep_throw (fault fault' : Fault) (halts : ∀ left right, pre left right → halted left right) :
    Lockstep pre (throw fault : AllocM α) (throw fault') post halted :=
  fun left right related => agree_stops 0 rfl rfl (halts left right related)

/-! ### Reports -/

/-- A report adds one to the count. -/
theorem reportCount_deliver (level : Level) (message : String) (fields : List (String × String))
    (allocator : Allocator) :
    ((deliver level message fields).run.run allocator).2.reportCount = allocator.reportCount + 1 := by
  simp [deliver, reportCount]

/-- A block error makes one report, and stops exactly under the abort policy. -/
theorem blockError_run (reason block message : String) (allocator : Allocator) :
    ((blockError reason block message).run.run allocator).2.reportCount = allocator.reportCount + 1 ∧
      ((blockError reason block message).run.run allocator).2.core = allocator.core := by
  unfold blockError deliver
  simp only [run_bind, run_modify, run_get]
  split <;> exact ⟨Array.size_push _, rfl⟩

section Reports

variable (stable : Stable pre)
include stable

/-- Block errors on both sides, about blocks that may be named differently, run in lockstep
from states with one abort policy. -/
theorem lockstep_blockError (reason : String) (block block' message message' : String)
    (halts : ∀ left right, pre left right → halted left right)
    (abort : ∀ left right, pre left right → left.reporter.abortOnError = right.reporter.abortOnError) :
    Lockstep pre (blockError reason block message) (blockError reason block' message')
      (fun _ => pre) halted := by
  intro left right related
  obtain ⟨leftReports, leftCore⟩ := blockError_run reason block message left
  obtain ⟨rightReports, rightCore⟩ := blockError_run reason block' message' right
  have leftResult := blockError_result reason block message left
  have rightResult := blockError_result reason block' message' right
  rw [abort left right related] at leftResult
  rcases leftRun : (blockError reason block message).run.run left with ⟨leftOutcome, leftNext⟩
  rcases rightRun : (blockError reason block' message').run.run right with ⟨rightOutcome, rightNext⟩
  rw [leftRun] at leftReports leftCore leftResult
  rw [rightRun] at rightReports rightCore rightResult
  dsimp only at leftReports leftCore leftResult rightReports rightCore rightResult
  subst leftResult rightResult
  have stillRelated := stable left right leftNext rightNext related leftCore rightCore
  split
  · exact agree_stops 1 leftReports rightReports (halts _ _ stillRelated)
  · exact ⟨⟨1, leftReports, rightReports⟩, .inl ⟨⟨⟩, rfl, rfl, stillRelated⟩⟩

/-- A report that concerns no block, made on both sides. -/
theorem lockstep_reportError (message : String) :
    Lockstep pre (reportError message) (reportError message) (fun _ => pre) halted := by
  intro left right related
  refine ⟨⟨1, reportCount_deliver _ _ _ left, reportCount_deliver _ _ _ right⟩, .inl ⟨⟨⟩, rfl, rfl, ?_⟩⟩
  exact stable left right _ _ related rfl rfl

end Reports

end Allocator

end HeapKit.Memory
