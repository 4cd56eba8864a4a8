import HeapKit.Proofs.Memory.TwinSteps
import HeapKit.Proofs.Memory.Regions

/-!
# Allocations on twin allocators

Twin allocators over the heap decide every allocation request alike. The checks read only the
request and the settings, which the twins share, so both refuse the request for one condition,
or both ask the heap for the same bytes. The heap stops when no buffer of that size can be made,
and otherwise reserves the bytes at the next base, which is the same on both sides; the region
is filled alike, stamped, and entered into each backend, and the twins go on with the new block
placed last (`Twins.agrees_allocateRaw`, `Twins.agrees_allocateFrame`).
-/

namespace HeapKit.Memory

open Allocator

namespace Allocator

variable {region : Region} {request : Request} {allocator : Allocator}

@[simp] theorem journal_enrolled : (enrolled region request allocator).journal = allocator.journal := by
  unfold enrolled
  split <;> rfl

@[simp] theorem settings_enrolled : (enrolled region request allocator).settings = allocator.settings := by
  unfold enrolled
  split <;> rfl

@[simp] theorem journal_prefilled : (prefilled region request allocator).journal = allocator.journal := by
  unfold prefilled
  split <;> rfl

@[simp] theorem settings_prefilled : (prefilled region request allocator).settings = allocator.settings := by
  unfold prefilled
  split <;> rfl

@[simp] theorem backend_prefilled : (prefilled region request allocator).backend = allocator.backend := by
  unfold prefilled
  split <;> rfl

@[simp] theorem nextBase_prefilled :
    (prefilled region request allocator).space.nextBase = allocator.space.nextBase := by
  unfold prefilled
  split
  · exact Space.nextBase_write _ _ _
  · rfl

/-- The heap reserves the bytes it is asked for at the next base once a buffer of that many bytes
can be made, and otherwise stops without a change. -/
theorem sourceAlloc_heap (heap : allocator.source = .heap) (total : Nat) :
    (sourceAlloc total).run.run allocator =
      match Bounds.storage total 1 with
      | .ok () => (.ok (.ok allocator.space.nextBase), { allocator with space := (allocator.space.reserve total).2 })
      | .error error => (.error (.bounds error), allocator) := by
  unfold sourceAlloc checkStorage
  rcases storage : Bounds.storage total 1 with error | ⟨⟩ <;>
    simp only [run_bind, run_get, run_pure, run_set, heap, reserveArea] <;> rfl

section Refused

variable {size alignment : Int} (tag : String) (kind : BlockKind) (zeroed : Bool)

/-- A byte request of a negative size is refused as an overflow, whatever its alignment. -/
theorem allocateRaw_negative (negative : size < 0) (allocator : Allocator) :
    Refusal .sizeOverflow allocator ((allocateRaw size alignment tag kind zeroed).run.run allocator).1
      ((allocateRaw size alignment tag kind zeroed).run.run allocator).2 := by
  unfold allocateRaw
  apply Refusal.passed
  · intro error
    rfl
  unfold rawRequest
  rw [if_pos negative]
  exact refusal_blockError (is_withContext _ _) _ _ _ allocator

/-- A byte request of a size that is not negative, at an invalid alignment, is refused for the
alignment. -/
theorem allocateRaw_invalidAlignment (nonnegative : ¬size < 0) (invalid : validAlignment alignment = false)
    (allocator : Allocator) :
    Refusal .invalidAlignment allocator ((allocateRaw size alignment tag kind zeroed).run.run allocator).1
      ((allocateRaw size alignment tag kind zeroed).run.run allocator).2 := by
  unfold allocateRaw
  apply Refusal.passed
  · intro error
    rfl
  unfold rawRequest
  rw [if_neg nonnegative, if_pos (by simp [invalid])]
  exact refusal_blockError (is_withContext _ _) _ _ _ allocator

end Refused

end Allocator

/-- An error of a condition is classified under the condition's name. -/
theorem MemError.kindName_of_is {error : MemError} {condition : Condition} (names : error.is condition = true) :
    error.kindName = condition.name := by
  rcases error with ⟨cause, context⟩
  cases cause with
  | condition found =>
    have same : found = condition := by simpa [MemError.is] using names
    simp [MemError.kindName, same]
  | leak => simp [MemError.is] at names
  | other => simp [MemError.is] at names

/-! ### New blocks on twins -/

namespace Twins

variable {left right : Allocator} {placed : List Placed}

/-- Filling a fresh payload above every placed block alike keeps the twins. -/
theorem prefilled (twins : Twins left right placed) (region : Region) (request : Request)
    (above : ∀ block ∈ placed, block.base + block.total ≤ region.payload) :
    Twins (Allocator.prefilled region request left) (Allocator.prefilled region request right) placed := by
  unfold Allocator.prefilled
  have sameSettings := twins.settings
  by_cases filling : (!request.zeroed && left.settings.debugMemset) = true
  · rw [if_pos filling, if_pos (by rwa [← sameSettings])]
    exact twins.write_above _ above
  · rw [if_neg filling, if_neg (by rwa [← sameSettings])]
    exact twins

/-- Entering one new block on both sides, in a region above every placed block that both spaces
hold, keeps the twins with a live block placed last at the region's payload, of the request's
length and kind. -/
theorem enter (twins : Twins left right placed) {region : Region} {request : Request}
    (laid : (Placed.ofRegion region request 0).Laid)
    (above : ∀ block ∈ placed, block.base + block.total ≤ region.base)
    (leftHeld : left.space.holds region.base region.total = true)
    (rightHeld : right.space.holds region.base region.total = true)
    (below : region.base + region.total ≤ left.space.nextBase) (room : right.tracker.blocks + 1 < 2 ^ 32) :
    ∃ block, Twins (Allocator.enrolled region request left) (Allocator.enrolled region request right)
        (placed ++ [block]) ∧
      block.live = true ∧ block.payload = region.payload ∧ block.entry.length = request.length ∧
      block.header.kind = request.kind.code :=
  ⟨_, twins.enroll laid above leftHeld rightHeld below room, rfl, rfl, rfl, rfl⟩

/-- A frame reserved at the next base and entered alike keeps the twins, with the frame placed
last. -/
theorem grantFrame (twins : Twins left right placed) {element : ElementType} {count : Nat} (tag : String)
    (valid : validAlignment (element.alignment : Int) = true)
    (small : element.size = 0 ∨ count ≤ maxInt / 4 / element.size) (room : right.tracker.blocks + 1 < 2 ^ 32) :
    let region := frameRegionAt element count left.space.nextBase
    let request := frameRequestOf element count tag
    ∃ block, Twins (Allocator.enrolled region request { left with space := (left.space.reserve region.total).2 })
        (Allocator.enrolled region request { right with space := (right.space.reserve region.total).2 })
        (placed ++ [block]) ∧
      block.live = true ∧ block.payload = region.payload ∧ block.entry.length = request.length ∧
      block.header.kind = BlockKind.typed.code := by
  intro region request
  obtain ⟨reserved, -, above, leftHeld, rightHeld, below⟩ := twins.reserve region.total
  exact reserved.enter (laid_frame valid small twins.aligned) above leftHeld rightHeld below room

/-- A byte block the heap granted at the next base, filled and entered alike, keeps the twins
with the block placed last. -/
theorem grantRaw (twins : Twins left right placed) {size alignment : Int} {tag : String} {kind : BlockKind}
    {zeroed : Bool} (valid : validAlignment alignment = true)
    (fits : (rawRequestOf size alignment tag kind zeroed).length + headerSize + tailSize +
      ((rawRequestOf size alignment tag kind zeroed).alignment - minimumAlignment) ≤ maxInt)
    (room : right.tracker.blocks + 1 < 2 ^ 32) :
    let request := rawRequestOf size alignment tag kind zeroed
    let region := rawRegionAt request.length request.alignment left.space.nextBase
    ∃ block, Twins
        (Allocator.enrolled region request
          (Allocator.prefilled region request { left with space := (left.space.reserve (rawTotal request)).2 }))
        (Allocator.enrolled region request
          (Allocator.prefilled region request { right with space := (right.space.reserve (rawTotal request)).2 }))
        (placed ++ [block]) ∧
      block.live = true ∧ block.payload = region.payload ∧ block.entry.length = request.length ∧
      block.header.kind = kind.code := by
  intro request region
  have laid : (Placed.ofRegion region request 0).Laid := laid_raw valid fits twins.aligned
  obtain ⟨reserved, -, above, leftHeld, rightHeld, below⟩ := twins.reserve (rawTotal request)
  -- the fill starts at the payload, a header past the base, so it stays above every placed block
  have overPayload : ∀ block ∈ placed, block.base + block.total ≤ region.payload := fun block member =>
    (above block member).trans (Nat.le_trans (Nat.le_add_right _ _) laid.headerInside)
  have filled := reserved.prefilled region request overPayload
  refine filled.enter laid above ?_ ?_ ?_ ?_
  · rw [(prefilled_space reserved.leftApart).2]
    exact leftHeld
  · rw [(prefilled_space reserved.rightApart).2]
    exact rightHeld
  · rw [nextBase_prefilled]
    exact below
  · unfold Allocator.tracker
    rw [backend_prefilled]
    exact room

/-! ### Allocation steps on twins -/

/-- A step that hands out a block placed last, live and standing for what the script is handed,
after no report and with the settings kept, agrees. -/
theorem agrees_placing {call : Call} (still : call.releasesBlock = false) {leftNext rightNext : Allocator}
    {block : Placed} {payload : Nat} {size : Int} (placing : Twins leftNext rightNext (placed ++ [block]))
    (backs : Issued.Backs ⟨payload, size.toNat, call.made⟩ block) (live : block.live = true)
    (leftReports : leftNext.reportCount = left.reportCount) (rightReports : rightNext.reportCount = right.reportCount)
    (sameSettings : leftNext.settings = left.settings) :
    Agrees Shown.ofAllocation (.call call) placed left right (.ok (.ok ⟨some payload, size⟩), leftNext)
      (.ok (.ok ⟨some payload, size⟩), rightNext) := by
  refine ⟨rfl, ⟨0, leftReports, rightReports⟩, sameSettings, _, placing, .place rfl ?_ backs live⟩
  rw [Step.freeing_call, still]
  rfl

section Agreeing

variable (twins : Twins left right placed) {call : Call} (still : call.releasesBlock = false)
include twins still

/-- Requests refused on both sides for one condition agree, and place nothing. -/
theorem agrees_refused {condition : Condition} {leftRun rightRun : Except Fault (Except MemError Block) × Allocator}
    (leftRefused : Refusal condition left leftRun.1 leftRun.2)
    (rightRefused : Refusal condition right rightRun.1 rightRun.2) :
    Agrees Shown.ofAllocation (.call call) placed left right leftRun rightRun := by
  have leftAnswer := leftRefused.answered
  have rightAnswer := rightRefused.answered
  rw [twins.reporter] at leftAnswer
  -- both stop at the report under the abort policy, or both return an error of the condition
  have shown : Shown.ofAllocation leftRun.1 = Shown.ofAllocation rightRun.1 ∧
      (Shown.ofAllocation leftRun.1).payload? = none := by
    split at leftAnswer
    · rename_i aborting
      rw [if_pos aborting] at rightAnswer
      obtain ⟨_, leftStops⟩ := leftAnswer
      obtain ⟨_, rightStops⟩ := rightAnswer
      rw [leftStops, rightStops]
      exact ⟨rfl, rfl⟩
    · rename_i going
      rw [if_neg going] at rightAnswer
      obtain ⟨leftError, leftNames, leftReturns⟩ := leftAnswer
      obtain ⟨rightError, rightNames, rightReturns⟩ := rightAnswer
      rw [leftReturns, rightReturns]
      refine ⟨?_, rfl⟩
      show Shown.failed leftError.kindName = Shown.failed rightError.kindName
      rw [MemError.kindName_of_is leftNames, MemError.kindName_of_is rightNames]
  have sameSettings := congrArg Allocator.settings leftRefused.kept
  refine ⟨shown.1, ⟨1, leftRefused.reported, rightRefused.reported⟩, sameSettings, placed,
    Twins.stable placed left right _ _ twins leftRefused.kept rightRefused.kept, .same shown.2 ?_⟩
  rw [Step.freeing_call, still]
  rfl

/-- Requests that stop on both sides with no change agree. -/
theorem agrees_stopped (fault : Fault) :
    Agrees Shown.ofAllocation (.call call) placed left right (.error fault, left) (.error fault, right) := by
  refine ⟨rfl, ⟨0, rfl, rfl⟩, rfl, placed, twins, .same rfl ?_⟩
  rw [Step.freeing_call, still]
  rfl

variable (room : right.tracker.blocks + 1 < 2 ^ 32)
include room

/-- A byte request runs alike on twins: refused alike, stopped alike by the heap, or granted
alike with the block placed last. -/
theorem agrees_allocateRaw {kind : BlockKind} (made : call.made = kind) (size alignment : Int) (tag : String)
    (zeroed : Bool) :
    Agrees Shown.ofAllocation (.call call) placed left right
      ((allocateRaw size alignment tag kind zeroed).run.run left)
      ((allocateRaw size alignment tag kind zeroed).run.run right) := by
  by_cases negative : size < 0
  · exact twins.agrees_refused still (allocateRaw_negative tag kind zeroed negative left)
      (allocateRaw_negative tag kind zeroed negative right)
  cases valid : validAlignment alignment
  · exact twins.agrees_refused still (allocateRaw_invalidAlignment tag kind zeroed negative valid left)
      (allocateRaw_invalidAlignment tag kind zeroed negative valid right)
  have leftDecided := allocateRaw_decided size alignment tag kind zeroed valid left
  have rightDecided := allocateRaw_decided size alignment tag kind zeroed valid right
  rw [← twins.settings] at rightDecided
  dsimp only at leftDecided rightDecided
  rw [if_neg negative] at leftDecided rightDecided
  split_ifs at leftDecided rightDecided with overLimit overflows
  · exact twins.agrees_refused still leftDecided rightDecided
  · exact twins.agrees_refused still leftDecided rightDecided
  -- the heap is asked for the same bytes on both sides
  unfold SourceAsked at leftDecided rightDecided
  rw [sourceAlloc_heap twins.leftSource] at leftDecided
  rw [sourceAlloc_heap twins.rightSource, ← twins.nextBase] at rightDecided
  rcases storage : Bounds.storage (rawTotal (rawRequestOf size alignment tag kind zeroed)) 1 with error | ⟨⟩
  · simp only [storage] at leftDecided rightDecided
    rw [leftDecided, rightDecided]
    exact twins.agrees_stopped still _
  · simp only [storage] at leftDecided rightDecided
    have fits : (rawRequestOf size alignment tag kind zeroed).length + headerSize + tailSize +
        ((rawRequestOf size alignment tag kind zeroed).alignment - minimumAlignment) ≤ maxInt := by
      simp only [rawRequestOf]
      omega
    obtain ⟨block, placing, live, payload, length, kindIs⟩ := twins.grantRaw valid fits room
    rw [leftDecided, rightDecided, ← payload]
    refine agrees_placing still placing ⟨rfl, ?_, ?_⟩ live ?_ ?_ ?_
    · rw [length]
      exact (roundLength_bounds _).1
    · rw [kindIs, made]
    · simp only [reportCount, journal_enrolled, journal_prefilled]
    · simp only [reportCount, journal_enrolled, journal_prefilled]
    · simp only [settings_enrolled, settings_prefilled]

omit room in
/-- An array of bytes runs alike on twins when the byte request of its size does: both refuse it
as an overflow, or both make that request. -/
theorem agrees_sized {operation : AllocM (Except MemError Block)} (allocate : Int → AllocM (Except MemError Block))
    (count size : Int)
    (decided : ∀ allocator : Allocator, if 0 ≤ count ∧ 0 ≤ size ∧ count * size ≤ maxInt then
        operation.run.run allocator = (allocate (count * size)).run.run allocator
      else Refusal .sizeOverflow allocator (operation.run.run allocator).1 (operation.run.run allocator).2)
    (granted : Agrees Shown.ofAllocation (.call call) placed left right ((allocate (count * size)).run.run left)
      ((allocate (count * size)).run.run right)) :
    Agrees Shown.ofAllocation (.call call) placed left right (operation.run.run left) (operation.run.run right) := by
  have leftDecided := decided left
  have rightDecided := decided right
  split_ifs at leftDecided rightDecided
  · rw [leftDecided, rightDecided]
    exact granted
  · exact twins.agrees_refused still leftDecided rightDecided

/-- A frame for a type of a valid alignment runs alike on twins: refused alike, or reserved and
entered alike with the frame placed last. -/
theorem agrees_allocateFrame (made : call.made = .typed) {element : ElementType}
    (valid : validAlignment (element.alignment : Int) = true) (count : Int) (tag : String) :
    Agrees Shown.ofAllocation (.call call) placed left right ((allocateFrame element count tag).run.run left)
      ((allocateFrame element count tag).run.run right) := by
  have leftDecided := allocateFrame_decided element count tag left
  have rightDecided := allocateFrame_decided element count tag right
  have sameLimit : right.settings.maxBlockSize = left.settings.maxBlockSize := by rw [twins.settings]
  rw [sameLimit, ← twins.nextBase] at rightDecided
  dsimp only at leftDecided rightDecided
  split_ifs at leftDecided rightDecided with overflows overLimit
  · exact twins.agrees_refused still leftDecided rightDecided
  · exact twins.agrees_refused still leftDecided rightDecided
  have small : element.size = 0 ∨ count.toNat ≤ maxInt / 4 / element.size := by
    rcases Nat.eq_zero_or_pos element.size with empty | positive
    · exact .inl empty
    · exact .inr (Nat.le_of_not_lt fun many => overflows (.inr ⟨positive, many⟩))
  obtain ⟨block, placing, live, payload, length, kindIs⟩ := twins.grantFrame tag valid small room
  rw [leftDecided, rightDecided, ← payload]
  refine agrees_placing still placing ⟨rfl, ?_, ?_⟩ live ?_ ?_ ?_
  · rw [length, ← Int.natCast_mul, Int.toNat_natCast]
    exact (roundLength_bounds _).1
  · rw [kindIs, made]
  · simp only [reportCount, journal_enrolled]
  · simp only [reportCount, journal_enrolled]
  · simp only [settings_enrolled]

end Agreeing

section Typed

variable (twins : Twins left right placed) (room : right.tracker.blocks + 1 < 2 ^ 32) {element : ElementType}
  (valid : validAlignment (element.alignment : Int) = true)
include twins room valid

/-- Constructing a value that fits its type runs alike on twins: refused alike, or its frame
placed last alike with the value written into it. -/
theorem agrees_construct {value : List UInt8} (fits : value.length ≤ element.size) (tag : String) :
    Agrees Shown.ofAllocation (.call (.construct element value tag)) placed left right
      ((Allocator.construct element value tag).run.run left) ((Allocator.construct element value tag).run.run right) := by
  have leftDecided := construct_decided element value tag left
  have rightDecided := construct_decided element value tag right
  have sameLimit : right.settings.maxBlockSize = left.settings.maxBlockSize := by rw [twins.settings]
  rw [sameLimit, ← twins.nextBase] at rightDecided
  dsimp only at leftDecided rightDecided
  split_ifs at leftDecided rightDecided with overflows overLimit
  · exact twins.agrees_refused rfl leftDecided rightDecided
  · exact twins.agrees_refused rfl leftDecided rightDecided
  have small : element.size = 0 ∨ 1 ≤ maxInt / 4 / element.size := by
    rcases Nat.eq_zero_or_pos element.size with empty | positive
    · exact .inl empty
    · exact .inr ((Nat.le_div_iff_mul_le positive).mpr (by omega))
  obtain ⟨block, placing, live, payload, length, kindIs⟩ := twins.grantFrame tag valid small room
  rw [leftDecided, rightDecided, ← payload]
  -- the value is written into the new frame, inside its payload
  have rounded := (roundLength_bounds (element.size * 1)).1
  refine agrees_placing rfl (placing.write_payload (show block ∈ placed ++ [block] by simp) le_rfl ?_)
    ⟨rfl, ?_, ?_⟩ live ?_ ?_ ?_
  · rw [length]
    simp only [frameRequestOf] at rounded ⊢
    omega
  · rw [length, Int.toNat_natCast]
    simp only [frameRequestOf, Nat.mul_one] at rounded ⊢
    exact rounded
  · exact kindIs
  · simp only [reportCount, journal_enrolled]
  · simp only [reportCount, journal_enrolled]
  · simp only [settings_enrolled]

/-- A new array of a type of a valid alignment runs alike on twins: no elements give the nil
block on both sides, and any other count is the frame for it. -/
theorem agrees_newArray (count : Int) (tag : String) :
    Agrees Shown.ofAllocation (.call (.newArray element count tag)) placed left right
      ((Allocator.newArray element count tag).run.run left) ((Allocator.newArray element count tag).run.run right) := by
  by_cases empty : count = 0
  · subst empty
    rw [newArray_run_of_zero, newArray_run_of_zero]
    refine ⟨rfl, ⟨0, rfl, rfl⟩, rfl, placed, twins, .same rfl ?_⟩
    rw [Step.freeing_call]
    rfl
  · rw [newArray_run_of_ne_zero tag left empty, newArray_run_of_ne_zero tag right empty]
    exact twins.agrees_allocateFrame rfl room rfl valid count tag

end Typed

end Twins

/-- Allocations that agree as steps agree once their outcome is the step's reply. -/
theorem Agrees.allocated {placed : List Placed} {left right : Allocator} {call : Call}
    {operation : AllocM (Except MemError Block)}
    (defined : call.run = operation >>= fun result => pure (Reply.block result))
    (agrees : Agrees Shown.ofAllocation (.call call) placed left right (operation.run.run left)
      (operation.run.run right)) :
    Agrees Shown.of (.call call) placed left right ((Step.call call).run.run.run left)
      ((Step.call call).run.run.run right) := by
  rw [Step.run_call defined, Step.run_call defined]
  refine Agrees.map ?_
  have shows : (fun outcome => Shown.of (outcome.map fun result => some (Reply.block result))) =
      Shown.ofAllocation :=
    funext Shown.of_map_block
  rw [shows]
  exact agrees

end HeapKit.Memory
