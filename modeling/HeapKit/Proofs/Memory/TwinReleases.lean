import HeapKit.Proofs.Memory.Layout
import HeapKit.Request.MemoryScript

/-!
# Releases on twin allocators

Twin allocators, one counting and one tracking, answer every release alike as long as the
address released is nil, not word-aligned, or the payload of a placed block, and the history
has room for every freed block. A live block is freed on both sides; a freed one is a double
free on both sides: the counting backend reads the freed tags in its header, the tracking
backend finds its address in the history. Values and arrays cleared after their release stay
inside the block they were freed from.

`Ready` is the relation each call starts from: twins over the blocks placed so far, with one
more slot free in the tracking backend. `Continues` is the relation a call ends in: twins over
the blocks placed since, which keep every earlier block's entry, place the blocks the call
handed out, and free at most as many more blocks as the call gave back.
-/

namespace HeapKit.Memory

open HeapKit.Endian Allocator

/-! ### The relations a call starts from and ends in -/

/-- Twins over `placed` under `settings`, with a slot to spare in the tracking backend. -/
def Ready (settings : Settings) (placed : List Placed) (left right : Allocator) : Prop :=
  Twins left right placed ∧ left.settings = settings ∧ right.tracker.blocks + 1 < 2 ^ 32

/-- Every block handed out with an address is a placed block at least as long. -/
def Handed (placed : List Placed) (handed : List Block) : Prop :=
  ∀ block ∈ handed, ∀ payload, block.address = some payload →
    ∃ owner ∈ placed, owner.payload = payload ∧ block.length.toNat ≤ owner.entry.length

/-- Twins after a call that started from twins over `placed`: every block placed before is
still placed with its entry, the blocks the call handed out are placed, and at most `freedMore`
more blocks are freed. -/
def Continues (settings : Settings) (placed : List Placed) (handed : List Block) (freedMore : Nat)
    (left right : Allocator) : Prop :=
  ∃ later, Twins left right later ∧ left.settings = settings ∧
    (∀ block ∈ placed, ∃ kept ∈ later, kept.entry = block.entry) ∧ Handed later handed ∧
    (freedPayloads later).length ≤ (freedPayloads placed).length + freedMore

variable {settings : Settings} {placed : List Placed}

theorem Ready.stable (settings : Settings) (placed : List Placed) : Stable (Ready settings placed) := by
  intro left right left' right' ready leftCore rightCore
  obtain ⟨twins, sameSettings, room⟩ := ready
  have leftSettings : left'.settings = left.settings := by
    have sameSettings := congrArg Allocator.settings leftCore
    exact sameSettings
  have rightTracker : right'.tracker = right.tracker := by
    unfold Allocator.tracker
    rw [backend_eq_of_core rightCore]
  exact ⟨Twins.stable placed left right left' right' twins leftCore rightCore, leftSettings.trans sameSettings,
    rightTracker ▸ room⟩

theorem Continues.stable (settings : Settings) (placed : List Placed) (handed : List Block) (freedMore : Nat) :
    Stable (Continues settings placed handed freedMore) := by
  intro left right left' right' continues leftCore rightCore
  obtain ⟨later, twins, sameSettings, kept, handedOut, freed⟩ := continues
  have leftSettings : left'.settings = left.settings := by
    have sameSettings := congrArg Allocator.settings leftCore
    exact sameSettings
  exact ⟨later, Twins.stable later left right left' right' twins leftCore rightCore,
    leftSettings.trans sameSettings, kept, handedOut, freed⟩

/-- Twins that placed nothing and freed nothing continue, for any number of blocks given back. -/
theorem Ready.continues {left right : Allocator} (ready : Ready settings placed left right) (freedMore : Nat) :
    Continues settings placed [] freedMore left right :=
  ⟨placed, ready.1, ready.2.1, fun block member => ⟨block, member, rfl⟩, fun _ absent => absurd absent (by simp),
    Nat.le_add_right _ _⟩

/-- A call that stopped continues from where it started. -/
theorem Ready.halts {left right : Allocator} (ready : Ready settings placed left right) :
    Continues settings placed [] 0 left right :=
  ready.continues 0

/-! ### Runs that only look -/

/-- A program that makes no report and changes nothing but the journal, returning a value. -/
def Quiet {α : Type} (operation : AllocM α) : Prop :=
  ∀ allocator, ∃ value next, operation.run.run allocator = (.ok value, next) ∧ next.core = allocator.core ∧
    next.reportCount = allocator.reportCount

theorem quiet_pure {α : Type} (value : α) : Quiet (pure value : AllocM α) :=
  fun allocator => ⟨value, allocator, rfl, rfl, rfl⟩

theorem Quiet.bind {α β : Type} {first : AllocM α} {rest : α → AllocM β} (quietFirst : Quiet first)
    (quietRest : ∀ value, Quiet (rest value)) : Quiet (first >>= rest) := by
  intro allocator
  obtain ⟨value, middle, running, middleCore, middleReports⟩ := quietFirst allocator
  obtain ⟨result, next, restRunning, nextCore, nextReports⟩ := quietRest value middle
  refine ⟨result, next, ?_, nextCore.trans middleCore, nextReports.trans middleReports⟩
  rw [run_bind, running]
  exact restRunning

theorem quiet_ite {α : Type} {condition : Prop} [Decidable condition] {yes no : AllocM α} (quietYes : Quiet yes)
    (quietNo : Quiet no) : Quiet (if condition then yes else no) := by
  split
  · exact quietYes
  · exact quietNo

theorem quiet_finalize (address : Nat) : Quiet (finalize address) :=
  fun allocator => ⟨⟨⟩, _, rfl, rfl, rfl⟩

theorem quiet_isLive (address : Option Nat) : Quiet (isLive address) := by
  intro allocator
  obtain ⟨live, running⟩ := isLive_run address allocator
  exact ⟨live, allocator, running, rfl, rfl⟩

theorem quiet_forIn {β : Type} (items : List β) (body : β → PUnit → AllocM (ForInStep PUnit))
    (quietBody : ∀ item state, Quiet (body item state)) (state : PUnit) : Quiet (forIn items state body) := by
  induction items generalizing state with
  | nil => exact quiet_pure _
  | cons item rest inductionHypothesis =>
    rw [List.forIn_cons]
    refine (quietBody item state).bind fun step => ?_
    cases step with
    | done => exact quiet_pure _
    | yield next => exact inductionHypothesis next

/-- A program that runs as `rest` does from a state it only looked at: the same but for the
journal, with as many reports. -/
def Skips {α : Type} (operation rest : AllocM α) : Prop :=
  ∀ allocator, ∃ middle, middle.core = allocator.core ∧ middle.reportCount = allocator.reportCount ∧
    operation.run.run allocator = rest.run.run middle

/-- Looking at the state, and perhaps doing more that only looks, before `rest` skips to `rest`. -/
theorem skips_look {α β γ : Type} {look : AllocM β} {condition : β → Bool} {extra : AllocM γ}
    {rest : AllocM α} (quietLook : Quiet look) (quietExtra : Quiet extra) :
    Skips (look >>= fun value => if condition value = true then extra >>= fun _ => rest else rest) rest := by
  intro allocator
  obtain ⟨value, looked, lookRun, lookCore, lookReports⟩ := quietLook allocator
  rw [run_bind, lookRun]
  dsimp only
  split
  · obtain ⟨done, middle, extraRun, extraCore, extraReports⟩ := quietExtra looked
    refine ⟨middle, extraCore.trans lookCore, extraReports.trans lookReports, ?_⟩
    rw [run_bind, extraRun]
  · exact ⟨looked, lookCore, lookReports, rfl⟩

/-- Programs that skip to programs in lockstep run in lockstep from a stable relation. -/
theorem Lockstep.skips {α : Type} {pre : Allocator → Allocator → Prop} {post : α → Allocator → Allocator → Prop}
    {halted : Allocator → Allocator → Prop} (stable : Stable pre) {p q p' q' : AllocM α}
    (leftSkips : Skips p p') (rightSkips : Skips q q') (lockstep : Lockstep pre p' q' post halted) :
    Lockstep pre p q post halted := by
  intro left right related
  obtain ⟨leftMiddle, leftCore, leftReports, leftRun⟩ := leftSkips left
  obtain ⟨rightMiddle, rightCore, rightReports, rightRun⟩ := rightSkips right
  rw [leftRun, rightRun]
  exact (lockstep leftMiddle rightMiddle (stable left right _ _ related leftCore rightCore)).rebase
    leftReports rightReports

end HeapKit.Memory
