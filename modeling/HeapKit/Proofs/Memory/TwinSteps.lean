import HeapKit.Proofs.Memory.Scripts
import HeapKit.Proofs.Memory.Frames

/-!
# Steps that twin allocators agree on

Run one step of a script on twin allocators, one counting and one tracking over the heap. The
two runs agree (`Agrees`) when the script cannot tell them apart: they show the same, after as
many reports, and they end in twins over the blocks the step leaves placed (`Follows`). A step
that hands out a block places it last, live; a release that frees marks one live block freed;
any other step leaves the placed blocks as they were.

Along a script the twins stay `Synced`: twins over placed blocks that the blocks the script was
handed stand for, in order (`Issued.Backs`), before the leak check, with at most as many blocks
freed as releases freed so far. Runs that agree from synced twins are observed alike, down to
the header of a new block, and end synced again (`Agrees.observe`, `Agrees.synced`).
-/

namespace HeapKit.Memory

open HeapKit.Endian Allocator

/-! ### The blocks a script holds -/

/-- A block the script was handed stands for a placed block: at its payload, no longer than its
entry, and stamped with its kind. -/
def Issued.Backs (issued : Issued) (block : Placed) : Prop :=
  block.payload = issued.payload ∧ issued.length ≤ block.entry.length ∧ block.header.kind = issued.kind.code

theorem Issued.Backs.freed {issued : Issued} {block : Placed} (backs : issued.Backs block) :
    issued.Backs block.freed :=
  backs

/-- Blocks that stand for a list of placed blocks stand for it with one of them replaced by a
block every one of them that stood for the old one stands for. -/
theorem forall₂_replace {issued : List Issued} {before after : List Placed} {block other : Placed}
    (swap : ∀ handed : Issued, handed.Backs block → handed.Backs other)
    (backs : List.Forall₂ Issued.Backs issued (before ++ block :: after)) :
    List.Forall₂ Issued.Backs issued (before ++ other :: after) := by
  induction before generalizing issued with
  | nil =>
    cases backs with
    | cons head tail => exact .cons (swap _ head) tail
  | cons first rest inductionHypothesis =>
    rw [List.cons_append] at backs ⊢
    cases backs with
    | cons head tail => exact .cons head (inductionHypothesis tail)

namespace Step

variable {step : Step} {shown : Shown}

theorem issues_of_unhanded (unhanded : shown.payload? = none) : step.issues shown = [] := by
  unfold issues
  split
  · simp [Shown.payload?] at unhanded
  · rfl

theorem payload_of_issues {issued : Issued} (issues : step.issues shown = [issued]) :
    shown.payload? = some issued.payload := by
  unfold Step.issues at issues
  split at issues
  · cases issues
    rfl
  · cases issues

end Step

/-! ### How a step moves the placed blocks -/

/-- How a step that showed `shown` moves the placed blocks: a block it handed out is placed
last, live, standing for what the script was handed; a release that freed a block marks one
live block freed; any other step leaves them. -/
inductive Follows (step : Step) (shown : Shown) : List Placed → List Placed → Prop
  | same {placed : List Placed} (unhanded : shown.payload? = none) (keeps : step.freeing shown = false) :
      Follows step shown placed placed
  | place {placed : List Placed} {issued : Issued} {block : Placed} (issues : step.issues shown = [issued])
      (keeps : step.freeing shown = false) (backs : issued.Backs block) (live : block.live = true) :
      Follows step shown placed (placed ++ [block])
  | free {before after : List Placed} {block : Placed} (unhanded : shown.payload? = none)
      (frees : step.freeing shown = true) (live : block.live = true) :
      Follows step shown (before ++ block :: after) (before ++ block.freed :: after)

/-- Two runs of a step from twins over `placed` that a script cannot tell apart: they show the
same after as many reports, keep the settings, and end in twins over the blocks the step leaves
placed. -/
structure Agrees {α : Type} (shows : Except Fault α → Shown) (step : Step) (placed : List Placed)
    (left right : Allocator) (leftRun rightRun : Except Fault α × Allocator) : Prop where
  shown : shows leftRun.1 = shows rightRun.1
  reports : ∃ added, leftRun.2.reportCount = left.reportCount + added ∧
    rightRun.2.reportCount = right.reportCount + added
  settings : leftRun.2.settings = left.settings
  follows : ∃ later, Twins leftRun.2 rightRun.2 later ∧ Follows step (shows leftRun.1) placed later

/-! ### What allocations and releases show -/

namespace Shown

/-- What the outcome of an allocation shows. -/
def ofAllocation : Except Fault (Except MemError Block) → Shown
  | .error _ => stopped
  | .ok (.ok block) => handed block
  | .ok (.error error) => failed error.kindName

/-- What the outcome of a release shows. -/
def ofRelease : Except Fault (Option MemError) → Shown
  | .error _ => stopped
  | .ok none => done
  | .ok (some error) => failed error.kindName

theorem of_map_block (outcome : Except Fault (Except MemError Block)) :
    Shown.of (outcome.map fun result => some (Reply.block result)) = ofAllocation outcome := by
  rcases outcome with _ | _ | _ <;> rfl

theorem of_map_released (outcome : Except Fault (Option MemError)) :
    Shown.of (outcome.map fun result => some (Reply.released result)) = ofRelease outcome := by
  rcases outcome with _ | _ | _ <;> rfl

end Shown

/-- Runs that agree on what an operation shows agree on what the step that wraps its result in a
reply shows. -/
theorem Agrees.map {α β : Type} {shows : Except Fault β → Shown} {answer : α → β} {step : Step}
    {placed : List Placed} {left right : Allocator} {leftRun rightRun : Except Fault α × Allocator}
    (agrees : Agrees (fun outcome => shows (outcome.map answer)) step placed left right leftRun rightRun) :
    Agrees shows step placed left right (leftRun.1.map answer, leftRun.2) (rightRun.1.map answer, rightRun.2) :=
  ⟨agrees.shown, agrees.reports, agrees.settings, agrees.follows⟩

/-- A step that calls an operation and replies with its result runs as the operation does, with
the reply wrapped around the result. -/
theorem Step.run_call {α : Type} {call : Call} {operation : AllocM α} {answer : α → Reply}
    (defined : call.run = operation >>= fun value => pure (answer value)) (allocator : Allocator) :
    (Step.call call).run.run.run allocator =
      ((operation.run.run allocator).1.map fun value => some (answer value), (operation.run.run allocator).2) := by
  unfold Step.run
  rw [run_bind_pure, defined, run_bind_pure]
  rcases (operation.run.run allocator).1 with _ | _ <;> rfl

/-! ### Twins are observed alike -/

theorem unsignedWord_natCast (value : Nat) : unsignedWord value = value % Nat.pow 2 64 := by
  unfold unsignedWord
  have modulus : Int.pow 2 64 = ((Nat.pow 2 64 : Nat) : Int) := rfl
  rw [modulus]
  omega

namespace Twins

variable {left right : Allocator} {placed : List Placed}

/-- Twins show the same usage, as 64-bit words. -/
theorem usage_words (twins : Twins left right placed) :
    left.usage.inUse % Nat.pow 2 64 = right.usage.inUse % Nat.pow 2 64 ∧
      left.usage.blocks % Nat.pow 2 64 = right.usage.blocks % Nat.pow 2 64 ∧
      left.usage.peak % Nat.pow 2 64 = right.usage.peak % Nat.pow 2 64 := by
  obtain ⟨sameBlocks, -⟩ := twins.blocks
  obtain ⟨sameBytes, -⟩ := twins.bytes
  obtain ⟨samePeak, -⟩ := twins.peak
  unfold usage
  rw [twins.counting, twins.tracking]
  refine ⟨?_, ?_, ?_⟩ <;> simp only [sameBlocks, sameBytes, samePeak, unsignedWord_natCast, Nat.mod_mod]

/-- Twins read the same header in front of a placed block, once the slot is left out. -/
theorem header_untracked (twins : Twins left right placed) {block : Placed} (member : block ∈ placed) :
    untrackedHeader left.space block.payload = untrackedHeader right.space block.payload := by
  unfold untrackedHeader
  rw [(twins.leftStored block member).headerBytes, (twins.rightStored block member).headerBytes,
    Header.decode_encode, Header.decode_encode]
  unfold Placed.current Placed.trackedHeader Header.markFreed
  split <;> rfl

end Twins

/-! ### Twins along a script -/

/-- Twins along a script's run under `settings`: twins over placed blocks that the blocks the
script was handed stand for, in order, before the leak check, with at most `freeing` blocks
freed. -/
def Synced (settings : Settings) (issued : List Issued) (freeing : Nat) (left right : Allocator) : Prop :=
  ∃ placed, Twins left right placed ∧ left.settings = settings ∧ left.leakRan = false ∧
    List.Forall₂ Issued.Backs issued placed ∧ (freedPayloads placed).length ≤ freeing

section Agreeing

variable {step : Step} {placed : List Placed} {left right : Allocator}
  {leftRun rightRun : Except Fault (Option Reply) × Allocator}

/-- Runs that agree are observed alike. -/
theorem Agrees.observe (agrees : Agrees Shown.of step placed left right leftRun rightRun) :
    observe left leftRun = observe right rightRun := by
  obtain ⟨shown, ⟨added, leftReports, rightReports⟩, -, later, twins, follows⟩ := agrees
  obtain ⟨inUse, blocks, peak⟩ := twins.usage_words
  have header : (Shown.of leftRun.1).payload?.map (untrackedHeader leftRun.2.space) =
      (Shown.of rightRun.1).payload?.map (untrackedHeader rightRun.2.space) := by
    rw [← shown]
    -- only a block the step placed is handed out with an address, and twins read its header alike
    cases follows with
    | same unhanded => rw [unhanded, Option.map_none, Option.map_none]
    | free unhanded => rw [unhanded, Option.map_none, Option.map_none]
    | place issues _ backs =>
      rw [Step.payload_of_issues issues, Option.map_some, Option.map_some, ← backs.1]
      exact congrArg some (twins.header_untracked (by simp))
  unfold HeapKit.Memory.observe
  rw [leftReports, rightReports, inUse, blocks, peak, header, shown, Nat.add_sub_cancel_left,
    Nat.add_sub_cancel_left]

/-- Runs that agree from synced twins end synced, the blocks the step handed out added to the
script's account and one more block freed when the step freed one. -/
theorem Agrees.synced {settings : Settings} {issued : List Issued} {freeing : Nat}
    (agrees : Agrees Shown.of step placed left right leftRun rightRun) (sameSettings : left.settings = settings)
    (unchecked : leftRun.2.leakRan = false) (backs : List.Forall₂ Issued.Backs issued placed)
    (freed : (freedPayloads placed).length ≤ freeing) :
    Synced settings (issued ++ step.issues (Shown.of leftRun.1))
      (freeing + if step.freeing (Shown.of leftRun.1) then 1 else 0) leftRun.2 rightRun.2 := by
  obtain ⟨-, -, keptSettings, later, twins, follows⟩ := agrees
  refine ⟨later, twins, keptSettings.trans sameSettings, unchecked, ?_⟩
  cases follows with
  | same unhanded keeps =>
    rw [Step.issues_of_unhanded unhanded, keeps, List.append_nil]
    exact ⟨backs, by simpa using freed⟩
  | @place _ handed block issues keeps blockBacks live =>
    rw [issues, keeps]
    refine ⟨List.rel_append backs (.cons blockBacks .nil), ?_⟩
    have unchanged : freedPayloads (placed ++ [block]) = freedPayloads placed := by
      simp [freedPayloads, live]
    simpa [unchanged] using freed
  | @free before after block unhanded frees live =>
    rw [Step.issues_of_unhanded unhanded, frees, List.append_nil, if_pos rfl]
    refine ⟨forall₂_replace (fun _ backs => backs.freed) backs, ?_⟩
    have grows := (@freedPayloads_freed before after block live).length_eq
    rw [List.length_cons] at grows
    omega

end Agreeing

/-- A fresh allocator over the heap, and the same allocator switched to the tracking backend,
are twins that placed nothing. -/
theorem Synced.fresh (settings : Settings) (reporter : Reporter) :
    Synced settings [] 0 { settings, reporter } (switchedToGuarded { settings, reporter }) := by
  refine ⟨[], ?_, rfl, rfl, .nil, le_rfl⟩
  exact {
    settings := rfl
    reporter := rfl
    leakRan := rfl
    leftSource := rfl
    rightSource := rfl
    counting := rfl
    tracking := rfl
    blocks := ⟨rfl, rfl⟩
    bytes := ⟨rfl, rfl⟩
    peak := ⟨rfl, le_rfl⟩
    table := Memlist.sound_empty
    entries := fun _ absent => nomatch absent
    slots := show (0 : Nat) < 2 ^ 32 by decide
    history := ⟨[], by unfold switchedToGuarded; split <;> rfl, fun _ => List.Perm.refl _⟩
    leftApart := Space.room_empty.apart
    rightApart := Space.room_empty.apart
    nextBase := rfl
    aligned := show firstBase % minimumAlignment = 0 by decide
    laid := fun _ absent => nomatch absent
    leftStored := fun _ absent => nomatch absent
    rightStored := fun _ absent => nomatch absent
    apart := List.Pairwise.nil }

end HeapKit.Memory
