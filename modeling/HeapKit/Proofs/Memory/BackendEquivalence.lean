import HeapKit.Proofs.Memory.TwinFrees
import HeapKit.Proofs.Memory.TwinAllocations
import HeapKit.Proofs.Memory.TypedRuns

/-!
# The two backends are observed alike on the heap

Run one script on a fresh allocator over the heap, once on the counting backend and once on the
tracking one. The two runs are observed alike step for step: the same outcome and error kind,
the same number of reports, the same usage counters, and the same header of every new block but
for its slot (`heap_backends_observably_equal`). This holds while the script keeps to the blocks
it was handed (`keepsAlong`) and the tracking backend's history of freed addresses has room for
every block a release freed (`freeingAlong`).

A release that answers the kind mismatch has freed its block as well, so it takes a place in the
history like a release without error. The bound counts both kinds of release.

The proof carries `Synced` along the script. One step from synced twins agrees (`agrees_step`)
and ends synced again. The run follows by induction on the script (`Synced.observations_eq`).
-/

namespace HeapKit.Memory

open Allocator

/-! ### The script's account against the placed blocks -/

section Account

variable {issued : List Issued} {placed : List Placed}

/-- Every block the script was handed stands for a placed block. -/
theorem Issued.backs_of_mem (backs : List.Forall₂ Issued.Backs issued placed) {handed : Issued}
    (member : handed ∈ issued) : ∃ block ∈ placed, handed.Backs block := by
  induction backs with
  | nil => cases member
  | cons head _ inductionHypothesis =>
    rcases List.mem_cons.mp member with rfl | later
    · exact ⟨_, List.mem_cons_self, head⟩
    · obtain ⟨block, placedMember, blockBacks⟩ := inductionHypothesis later
      exact ⟨block, List.mem_cons_of_mem _ placedMember, blockBacks⟩

/-- Every placed block stands for a block the script was handed. -/
theorem Issued.handed_of_mem (backs : List.Forall₂ Issued.Backs issued placed) {block : Placed}
    (member : block ∈ placed) : ∃ handed ∈ issued, handed.Backs block := by
  induction backs with
  | nil => cases member
  | cons head _ inductionHypothesis =>
    rcases List.mem_cons.mp member with rfl | later
    · exact ⟨_, List.mem_cons_self, head⟩
    · obtain ⟨handed, issuedMember, blockBacks⟩ := inductionHypothesis later
      exact ⟨handed, List.mem_cons_of_mem _ issuedMember, blockBacks⟩

/-- An address a release may name is nil, misaligned, or the payload of a placed block. -/
theorem names_placed (backs : List.Forall₂ Issued.Backs issued placed) {address : Option Nat}
    (named : names issued address = true) :
    address = none ∨ (∃ payload, address = some payload ∧ payload % minimumAlignment ≠ 0) ∨
      ∃ block ∈ placed, address = some block.payload := by
  rcases address with _ | address
  · exact .inl rfl
  simp only [names, Bool.or_eq_true, bne_iff_ne, ne_eq, List.any_eq_true, beq_iff_eq] at named
  rcases named with misaligned | ⟨handed, member, same⟩
  · exact .inr (.inl ⟨address, rfl, misaligned⟩)
  · obtain ⟨block, placedMember, payloadIs, -, -⟩ := Issued.backs_of_mem backs member
    exact .inr (.inr ⟨block, placedMember, by rw [payloadIs, same]⟩)

/-- A clearing that stays inside any typed block the script was handed at the address stays
inside the placed block there. -/
theorem clearsWithin_placed (backs : List.Forall₂ Issued.Backs issued placed) {address : Option Nat}
    {length : Nat} (clears : clearsWithin issued address length = true) :
    ∀ block ∈ placed, address = some block.payload → block.header.kind = BlockKind.typed.code →
      length ≤ block.entry.length := by
  intro block member named typed
  obtain ⟨handed, issuedMember, payloadIs, longer, kindIs⟩ := Issued.handed_of_mem backs member
  -- the block is stamped with the kind the script was handed it as, so that kind is typed
  have handedTyped : handed.kind = .typed := by
    rw [typed] at kindIs
    cases kind : handed.kind
    · rw [kind] at kindIs
      exact absurd kindIs (by decide)
    · rfl
  have within := List.all_eq_true.mp clears handed issuedMember
  simp only [named, payloadIs, handedTyped, bne_self_eq_false, Bool.false_or, decide_eq_true_eq] at within
  exact within.trans longer

/-- A write inside a block the script was handed stays inside a placed block's payload. -/
theorem writes_placed (backs : List.Forall₂ Issued.Backs issued placed) {address : Nat} {bytes : List UInt8}
    (inside : (Step.write address bytes).keeps issued = true) :
    ∃ block ∈ placed, block.payload ≤ address ∧ address + bytes.length ≤ block.payload + block.entry.length := by
  obtain ⟨handed, member, within⟩ := List.any_eq_true.mp inside
  simp only [Bool.and_eq_true, decide_eq_true_eq] at within
  obtain ⟨block, placedMember, payloadIs, longer, -⟩ := Issued.backs_of_mem backs member
  exact ⟨block, placedMember, by omega, by omega⟩

end Account

/-! ### One step -/

namespace Step

/-- A step that keeps to the script's account leaves the leak check as it found it. -/
theorem leakRan_run {issued : List Issued} {step : Step} (keeps : step.keeps issued = true) (allocator : Allocator) :
    (step.run.run.run allocator).2.leakRan = allocator.leakRan := by
  cases step with
  | call operation =>
    have quiet : operation.checks = false := by
      cases operation <;> first | rfl | simp [Step.keeps, Call.keeps] at keeps
    unfold Step.run
    rw [run_bind_pure]
    exact congrArg DetectorState.leakRan (Call.detectorState_run quiet allocator)
  | write => rfl

end Step

namespace Twins

section Agreeing

variable {settings : Settings} {issued : List Issued} {placed : List Placed} {left right : Allocator}
  (twins : Twins left right placed) (settingsIs : left.settings = settings) (unchecked : left.leakRan = false)
  (backs : List.Forall₂ Issued.Backs issued placed)
  (fits : (freedPayloads placed).length ≤ historyCapacity settings) (room : placed.length + 1 < 2 ^ 32)
include twins settingsIs unchecked backs fits room

/-- A call that keeps to the script's account runs alike on twins. -/
theorem agrees_call {call : Call} (keeps : call.keeps issued = true) :
    Agrees Shown.of (.call call) placed left right ((Step.call call).run.run.run left)
      ((Step.call call).run.run.run right) := by
  -- the tracking backend has a slot to spare for a new block
  have slots : right.tracker.blocks + 1 < 2 ^ 32 := by
    rw [twins.blocks.2]
    have := length_liveSlots_le placed
    omega
  cases call with
  | malloc size tag =>
    exact Agrees.allocated rfl (twins.agrees_allocateRaw rfl slots rfl size minimumAlignment tag false)
  | mallocAligned size alignment tag =>
    exact Agrees.allocated rfl (twins.agrees_allocateRaw rfl slots rfl size alignment tag false)
  | calloc size tag =>
    exact Agrees.allocated rfl (twins.agrees_allocateRaw rfl slots rfl size minimumAlignment tag true)
  | mallocArray count size tag =>
    exact Agrees.allocated rfl (twins.agrees_sized rfl (fun total => Allocator.malloc total tag) count size
      (sizedAllocation_decided count size tag _)
      (twins.agrees_allocateRaw rfl slots rfl (count * size) minimumAlignment tag false))
  | callocArray count size tag =>
    exact Agrees.allocated rfl (twins.agrees_sized rfl (fun total => Allocator.calloc total tag) count size
      (sizedAllocation_decided count size tag _)
      (twins.agrees_allocateRaw rfl slots rfl (count * size) minimumAlignment tag true))
  | construct element value tag =>
    simp only [Call.keeps, Bool.and_eq_true, decide_eq_true_eq] at keeps
    exact Agrees.allocated rfl (twins.agrees_construct slots keeps.1 keeps.2 tag)
  | newArray element count tag =>
    exact Agrees.allocated rfl (twins.agrees_newArray slots keeps count tag)
  | free block =>
    exact Agrees.released rfl ((twins.agree_free settingsIs unchecked fits (names_placed backs keeps) .raw
      block.length).agrees_released rfl settingsIs)
  | destroy element address =>
    simp only [Call.keeps, Bool.and_eq_true] at keeps
    exact Agrees.released rfl ((twins.agree_destroy settingsIs unchecked fits (names_placed backs keeps.1)
      (clearsWithin_placed backs keeps.2)).agrees_released rfl settingsIs)
  | freeArray element address capacity =>
    by_cases empty : capacity = 0
    · -- an array of no capacity is left alone
      subst empty
      exact Agrees.released rfl (twins.agrees_untouched rfl fun allocator => ⟨allocator, rfl, rfl, rfl⟩)
    · have named : names issued address = true ∧ clearsWithin issued address (capacity * element.size) = true := by
        simpa [Call.keeps, empty] using keeps
      exact Agrees.released rfl ((twins.agree_freeArray settingsIs unchecked fits (names_placed backs named.1) empty
        (clearsWithin_placed backs named.2)).agrees_released (by simpa [Call.releasesBlock] using empty) settingsIs)
  | destroyArray element address capacity =>
    by_cases empty : capacity = 0
    · -- the finalizers of no elements run, and the array free of no capacity does nothing
      subst empty
      have emptyFree : Allocator.freeArray element address 0 = pure none := rfl
      refine Agrees.released rfl (twins.agrees_untouched rfl ?_)
      rw [← emptyFree]
      unfold Allocator.destroyArray
      exact skips_look (quiet_isLive address)
        (quiet_forIn _ _ (fun _ _ => (quiet_finalize _).bind fun _ => quiet_pure _) ⟨⟩)
    · have named : names issued address = true ∧ clearsWithin issued address (capacity * element.size) = true := by
        simpa [Call.keeps, empty] using keeps
      exact Agrees.released rfl ((twins.agree_destroyArray settingsIs unchecked fits (names_placed backs named.1)
        empty (clearsWithin_placed backs named.2)).agrees_released (by simpa [Call.releasesBlock] using empty)
        settingsIs)
  | keepAlive | runCheck | close => simp [Call.keeps] at keeps

/-- A step that keeps to the script's account runs alike on twins. -/
theorem agrees_step {step : Step} (keeps : step.keeps issued = true) :
    Agrees Shown.of step placed left right (step.run.run.run left) (step.run.run.run right) := by
  cases step with
  | call call => exact twins.agrees_call settingsIs unchecked backs fits room keeps
  | write address bytes =>
    -- a write inside a placed block's payload shows nothing and keeps the twins
    obtain ⟨block, member, after, before⟩ := writes_placed backs keeps
    exact ⟨rfl, ⟨0, rfl, rfl⟩, rfl, placed, twins.write_payload member after before, .same rfl rfl⟩

end Agreeing

end Twins

/-! ### Runs -/

section Runs

variable {settings : Settings}

/-- One step from synced twins that keeps to the script's account, with the history not yet
full, is observed alike and ends synced again. -/
theorem Synced.step {issued : List Issued} {freeing : Nat} {left right : Allocator} {step : Step}
    (synced : Synced settings issued freeing left right) (keeps : step.keeps issued = true)
    (remembered : freeing ≤ historyCapacity settings) (room : issued.length + 1 < 2 ^ 32) :
    observe left (step.run.run.run left) = observe right (step.run.run.run right) ∧
      Synced settings (issued ++ step.issues (Shown.of (step.run.run.run left).1))
        (freeing + if step.freeing (Shown.of (step.run.run.run left).1) then 1 else 0)
        (step.run.run.run left).2 (step.run.run.run right).2 := by
  obtain ⟨placed, twins, settingsIs, unchecked, backs, freed⟩ := synced
  have agrees := twins.agrees_step settingsIs unchecked backs (freed.trans remembered)
    (backs.length_eq ▸ room) keeps
  exact ⟨agrees.observe, agrees.synced settingsIs ((Step.leakRan_run keeps left).trans unchecked) backs freed⟩

end Runs

end HeapKit.Memory
