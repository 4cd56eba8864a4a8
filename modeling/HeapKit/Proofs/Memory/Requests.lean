import HeapKit.Proofs.Memory.Operations

/-!
# How allocation requests are decided

Every size an allocation request computes is checked on exact integers before anything is
allocated, and a request that is refused has changed nothing but the reports when it returns.
The checks come in a fixed order, and the order differs between the two kinds of block:

* an array of bytes is refused as an overflow when a factor is negative or the exact product is
  above the largest machine integer, and is otherwise the byte request of that product;
* a byte request is refused for a negative size, then for a rounded length above the block size
  limit, then for a region whose bytes would pass the largest machine integer; otherwise its
  source is asked for exactly the bytes of the region (`SourceAsked`);
* a typed request is refused for a negative count or more elements than a quarter of the
  largest machine integer holds, then for the block size limit; otherwise it gets its frame.

A refusal (`Refusal`) is one report and the condition's error, or under the abort policy a stop
at that report.
-/

namespace HeapKit.Memory

namespace Allocator

/-! ### Refusals -/

/-- A request refused for `condition`: nothing but the reports changed, exactly one report was
made, and the request returned an error of that condition, or stopped at the report under the
abort policy. -/
structure Refusal {α : Type} (condition : Condition) (allocator : Allocator)
    (result : Except Fault (Except MemError α)) (next : Allocator) : Prop where
  kept : next.core = allocator.core
  reported : next.journal.reports.size = allocator.journal.reports.size + 1
  answered : if allocator.reporter.abortOnError then ∃ text, result = .error (.abort text)
    else ∃ error : MemError, error.is condition = true ∧ result = .ok (.error error)

@[simp] theorem is_withContext (condition : Condition) (context : String) :
    (MemError.withContext condition context).is condition = true := by
  simp [MemError.withContext, MemError.is]

/-- A block error makes one report and keeps the reporter. -/
theorem blockError_journal (reason block message : String) (allocator : Allocator) :
    ((blockError reason block message).run.run allocator).2.journal.reports.size =
        allocator.journal.reports.size + 1 ∧
      ((blockError reason block message).run.run allocator).2.reporter = allocator.reporter := by
  unfold blockError deliver
  simp only [run_bind, run_modify, run_get]
  split <;> exact ⟨Array.size_push _, rfl⟩

/-- Reporting a block error and returning an error of `condition` refuses the request. -/
theorem refusal_blockError {α : Type} {condition : Condition} {error : MemError}
    (names : error.is condition = true) (reason block message : String) (allocator : Allocator) :
    Refusal condition allocator
      ((blockError reason block message >>= fun _ => (pure (.error error) : AllocM (Except MemError α))).run.run
        allocator).1
      ((blockError reason block message >>= fun _ => (pure (.error error) : AllocM (Except MemError α))).run.run
        allocator).2 := by
  have kept := (reports_blockError reason block message).bind
    (fun _ => reports_pure (.error error : Except MemError α)) allocator
  have stopped := blockError_result reason block message allocator
  obtain ⟨oneMore, sameReporter⟩ := blockError_journal reason block message allocator
  rw [run_bind]
  rcases reporting : (blockError reason block message).run.run allocator with ⟨outcome, reported⟩
  rw [reporting] at stopped oneMore
  rw [reporting] at sameReporter
  rw [run_bind, reporting] at kept
  dsimp only at stopped oneMore sameReporter
  refine ⟨?_, ?_, ?_⟩
  · rcases outcome with fault | ⟨⟩
    · exact kept
    · exact kept
  · rcases outcome with fault | ⟨⟩ <;> exact oneMore
  · split
    · rename_i aborting
      rw [if_pos aborting] at stopped
      subst stopped
      exact ⟨_, rfl⟩
    · rename_i going
      rw [if_neg going] at stopped
      subst stopped
      exact ⟨error, names, rfl⟩

/-- A request that goes on only after its first part succeeded is refused as that part was. -/
theorem Refusal.passed {α β : Type} {condition : Condition} {first : AllocM (Except MemError α)}
    {rest : Except MemError α → AllocM (Except MemError β)}
    (passes : ∀ error, rest (.error error) = pure (.error error)) {allocator : Allocator}
    (refused : Refusal condition allocator (first.run.run allocator).1 (first.run.run allocator).2) :
    Refusal condition allocator ((first >>= rest).run.run allocator).1 ((first >>= rest).run.run allocator).2 := by
  obtain ⟨kept, reported, answered⟩ := refused
  rw [run_bind]
  rcases running : first.run.run allocator with ⟨outcome, after⟩
  rw [running] at kept reported answered
  -- the first part either stopped at its report or returned its error: both pass through unchanged
  split at answered
  · rename_i aborting
    obtain ⟨text, rfl⟩ := answered
    exact ⟨kept, reported, by rw [if_pos aborting]; exact ⟨text, rfl⟩⟩
  · rename_i going
    obtain ⟨error, names, rfl⟩ := answered
    simp only [passes, run_pure]
    exact ⟨kept, reported, by rw [if_neg going]; exact ⟨error, names, rfl⟩⟩

/-- A step of a request that declines for `condition`: it changed nothing and returned an error
of that condition. -/
def Declines {α : Type} (condition : Condition) (allocator : Allocator)
    (ran : Except Fault (Except MemError α) × Allocator) : Prop :=
  ran.2 = allocator ∧ ∃ error : MemError, error.is condition = true ∧ ran.1 = .ok (.error error)

/-- A step that declines, followed by a report of what it declined, refuses the request. -/
theorem Refusal.of_declines {α β : Type} {condition : Condition} {first : AllocM (Except MemError α)}
    {rest : Except MemError α → AllocM (Except MemError β)}
    (reports : ∀ error, ∃ reason block message,
      rest (.error error) = (blockError reason block message >>= fun _ => pure (.error error)))
    {allocator : Allocator} (declines : Declines condition allocator (first.run.run allocator)) :
    Refusal condition allocator ((first >>= rest).run.run allocator).1 ((first >>= rest).run.run allocator).2 := by
  obtain ⟨unchanged, error, names, declined⟩ := declines
  obtain ⟨reason, block, message, reported⟩ := reports error
  have same : (first >>= rest).run.run allocator =
      (blockError reason block message >>= fun _ => (pure (.error error) : AllocM (Except MemError β))).run.run
        allocator := by
    rw [run_bind, ← Prod.eta (first.run.run allocator), declined, unchanged]
    exact congrArg (fun operation => operation.run.run allocator) reported
  rw [same]
  exact refusal_blockError names reason block message allocator

/-! ### Arrays of bytes -/

/-- An array of bytes is refused as an overflow exactly when a factor is negative or the exact
product passes the largest machine integer; otherwise it is the request of that product. -/
theorem sizedAllocation_decided (count size : Int) (tag : String)
    (allocate : Int → AllocM (Except MemError Block)) (allocator : Allocator) :
    let ran := (do
        match ← arraySize count size tag with
        | .error error => return .error error
        | .ok total => allocate total : AllocM (Except MemError Block)).run.run allocator
    if 0 ≤ count ∧ 0 ≤ size ∧ count * size ≤ maxInt then ran = (allocate (count * size)).run.run allocator
    else Refusal .sizeOverflow allocator ran.1 ran.2 := by
  dsimp only
  unfold arraySize
  split
  · rename_i fits
    have checked : (0 ≤ count && 0 ≤ size && decide (count * size ≤ maxInt)) = true := by
      simpa [and_assoc] using fits
    simp only [run_bind, checked, if_true, run_pure]
  · rename_i overflows
    have checked : (0 ≤ count && 0 ≤ size && decide (count * size ≤ maxInt)) = false := by
      simpa [Bool.and_eq_false_iff, and_assoc] using overflows
    apply Refusal.passed
    · intro error
      rfl
    simp only [checked, Bool.false_eq_true, if_false]
    exact refusal_blockError (is_withContext _ _) _ _ _ allocator

/-! ### Byte blocks -/

/-- The block size limit declines a rounded length above a non-zero limit, and passes any
other. -/
theorem checkLimit_decided (length : Nat) (allocator : Allocator) :
    let ran := (checkLimit length).run.run allocator
    if 0 < allocator.settings.maxBlockSize ∧ allocator.settings.maxBlockSize < length then
      Declines .outOfMemory allocator ran
    else ran = (.ok (.ok ()), allocator) := by
  simp only [checkLimit, run_bind, run_get]
  split
  · rename_i overLimit
    rw [if_pos (by simpa using overLimit)]
    exact ⟨rfl, _, is_withContext _ _, rfl⟩
  · rename_i within
    rw [if_neg (by simpa using within)]
    rfl

/-- A source declines a region only as out of memory, and only without changing anything. -/
theorem sourceAlloc_declines {total : Nat} {allocator : Allocator} {error : MemError}
    (declined : ((sourceAlloc total).run.run allocator).1 = .ok (.error error)) :
    Declines .outOfMemory allocator ((sourceAlloc total).run.run allocator) := by
  refine ⟨?_, error, ?_, declined⟩
  · rcases sourceAlloc_cases (Prod.eta _).symm with ⟨granted, -⟩ | ⟨-, unchanged⟩
    · rw [granted] at declined
      cases declined
    · exact unchanged
  · unfold sourceAlloc at declined
    rcases source : allocator.source with _ | chunks | _ <;>
      simp only [run_bind, run_get, source, reserveArea, run_set, run_pure] at declined
    · rw [(reads_checkStorage total).run_eq] at declined
      rcases checked : ((checkStorage total).run.run allocator).1 with fault | ⟨⟩ <;>
        simp only [checked] at declined <;> cases declined
    · split at declined
      · rw [run_bind, (reads_checkStorage total).run_eq] at declined
        rcases checked : ((checkStorage total).run.run allocator).1 with fault | ⟨⟩ <;>
          simp only [checked, run_bind, run_get, run_set, run_pure] at declined <;> cases declined
      · cases declined
    · split at declined
      · cases declined
        exact is_withContext _ _
      · simp only [run_bind, run_get, run_set, run_pure] at declined
        cases declined

/-- The region of a byte block: declined by the block size limit first, then by a total that
passes the largest machine integer; otherwise the source is asked for exactly the region's
bytes, and a base it grants gets the region laid out there. -/
theorem rawRegion_decided (length alignment : Nat) (allocator : Allocator) :
    let ran := (rawRegion length alignment).run.run allocator
    if 0 < allocator.settings.maxBlockSize ∧ allocator.settings.maxBlockSize < length then
      Declines .outOfMemory allocator ran
    else if maxInt < length + headerSize + tailSize + (alignment - minimumAlignment) then
      Declines .sizeOverflow allocator ran
    else ran =
      match (sourceAlloc (headerSize + (alignment - minimumAlignment) + length + tailSize)).run.run allocator with
      | (.ok (.ok base), granted) => (.ok (.ok (rawRegionAt length alignment base)), granted)
      | (.ok (.error error), after) => (.ok (.error error), after)
      | (.error fault, after) => (.error fault, after) := by
  have limited := checkLimit_decided length allocator
  dsimp only at limited ⊢
  unfold rawRegion
  split
  · rename_i overLimit
    rw [if_pos overLimit] at limited
    obtain ⟨unchanged, error, names, declined⟩ := limited
    rw [run_bind, ← Prod.eta ((checkLimit length).run.run allocator), declined, unchanged]
    exact ⟨rfl, error, names, rfl⟩
  · rename_i within
    rw [if_neg within] at limited
    simp only [run_bind, limited]
    split
    · exact ⟨rfl, _, is_withContext _ _, rfl⟩
    · rw [run_bind]
      rcases (sourceAlloc (headerSize + (alignment - minimumAlignment) + length + tailSize)).run.run allocator
        with ⟨_ | _ | base, after⟩ <;> rfl

theorem rawRequest_run_of_valid {size alignment : Int} (tag : String) (kind : BlockKind) (zeroed : Bool)
    (nonnegative : 0 ≤ size) (valid : validAlignment alignment = true) (allocator : Allocator) :
    (rawRequest size alignment tag kind zeroed).run.run allocator =
      (.ok (.ok (rawRequestOf size alignment tag kind zeroed)), allocator) := by
  unfold rawRequest
  rw [if_neg (by omega), if_neg (by simp [valid])]
  rfl

/-- How a byte request whose checks all passed ends, as its source answers the request for the
region's bytes: at a base the source grants, the block is placed and enrolled; a refusal of the
source is reported once and returned; a source that stops stops the request. -/
def SourceAsked (request : Request) (size : Int) (allocator : Allocator)
    (ran : Except Fault (Except MemError Block) × Allocator) : Prop :=
  match (sourceAlloc (rawTotal request)).run.run allocator with
  | (.ok (.ok base), granted) =>
    ran = (.ok (.ok ⟨some (rawRegionAt request.length request.alignment base).payload, size⟩),
      enrolled (rawRegionAt request.length request.alignment base) request
        (prefilled (rawRegionAt request.length request.alignment base) request granted))
  | (.ok (.error _), _) => Refusal .outOfMemory allocator ran.1 ran.2
  | (.error fault, stopped) => ran = (.error fault, stopped)

/-- A byte request is decided in this order: a negative size is an overflow; a rounded length
above a non-zero block size limit is out of memory; a region whose bytes pass the largest
machine integer is an overflow; otherwise the source is asked for exactly the region's bytes.
Each refusal comes before anything but its report has changed. -/
theorem allocateRaw_decided (size alignment : Int) (tag : String) (kind : BlockKind) (zeroed : Bool)
    (valid : validAlignment alignment = true) (allocator : Allocator) :
    let ran := (allocateRaw size alignment tag kind zeroed).run.run allocator
    if size < 0 then Refusal .sizeOverflow allocator ran.1 ran.2
    else if 0 < allocator.settings.maxBlockSize ∧ allocator.settings.maxBlockSize < roundLength size.toNat then
      Refusal .outOfMemory allocator ran.1 ran.2
    else if maxInt < headerSize + tailSize + (max alignment.toNat minimumAlignment - minimumAlignment) +
        roundLength size.toNat then
      Refusal .sizeOverflow allocator ran.1 ran.2
    else SourceAsked (rawRequestOf size alignment tag kind zeroed) size allocator ran := by
  dsimp only
  split
  · -- a negative size is refused by the request's own check, before any region is sought
    rename_i negative
    unfold allocateRaw
    apply Refusal.passed
    · intro error
      rfl
    unfold rawRequest
    rw [if_pos negative]
    exact refusal_blockError (is_withContext _ _) _ _ _ allocator
  · rename_i nonnegative
    have decided := rawRegion_decided (roundLength size.toNat) (max alignment.toNat minimumAlignment) allocator
    dsimp only at decided
    unfold allocateRaw SourceAsked rawTotal
    rw [run_bind, rawRequest_run_of_valid tag kind zeroed (by omega) valid]
    dsimp only [rawRequestOf]
    rw [run_bind, run_get]
    dsimp only
    split
    · rename_i overLimit
      rw [if_pos overLimit] at decided
      apply Refusal.of_declines _ decided
      intro error
      exact ⟨_, _, _, rfl⟩
    · rename_i within
      rw [if_neg within] at decided
      split
      · rename_i overflows
        rw [if_pos (by omega)] at decided
        apply Refusal.of_declines _ decided
        intro error
        exact ⟨_, _, _, rfl⟩
      · rename_i fits
        rw [if_neg (by omega)] at decided
        rw [run_bind, decided]
        rcases asking : (sourceAlloc (headerSize + (max alignment.toNat minimumAlignment - minimumAlignment) +
            roundLength size.toNat + tailSize)).run.run allocator with ⟨fault | error | base, after⟩
        · rfl
        · obtain ⟨unchanged, found, names, declined⟩ := sourceAlloc_declines (by rw [asking])
          rw [asking] at unchanged declined
          dsimp only at unchanged declined
          cases declined
          subst unchanged
          exact refusal_blockError names _ _ _ _
        · dsimp only
          unfold prefilled
          simp only [run_bind, run_get]
          by_cases filling : (!zeroed && after.settings.debugMemset) = true <;>
            simp only [filling, if_true, Bool.false_eq_true, if_false, run_bind, run_modify, enroll_run, run_pure]

/-! ### Typed frames -/

/-- The frame of a typed request: declined as an overflow for a negative count or more elements
than a quarter of the largest machine integer holds, then by the block size limit; otherwise
reserved at the next base. -/
theorem frameRegion_decided (element : ElementType) (count : Int) (allocator : Allocator) :
    let ran := (frameRegion element count).run.run allocator
    if count < 0 ∨ (0 < element.size ∧ maxInt / 4 / element.size < count.toNat) then
      Declines .sizeOverflow allocator ran
    else if 0 < allocator.settings.maxBlockSize ∧
        allocator.settings.maxBlockSize < roundLength (element.size * count.toNat) then
      Declines .outOfMemory allocator ran
    else ran = (.ok (.ok (frameRegionAt element count.toNat allocator.space.nextBase,
        roundLength (element.size * count.toNat))),
      { allocator with space := (allocator.space.reserve
        (frameRegionAt element count.toNat allocator.space.nextBase).total).2 }) := by
  have limited := checkLimit_decided (roundLength (element.size * count.toNat)) allocator
  dsimp only at limited ⊢
  unfold frameRegion
  by_cases negative : count < 0
  · rw [if_pos (.inl negative), if_pos negative]
    exact ⟨rfl, _, is_withContext _ _, rfl⟩
  rw [if_neg negative]
  dsimp only
  by_cases many : 0 < element.size ∧ maxInt / 4 / element.size < count.toNat
  · have checked : (decide (0 < element.size) && decide (maxInt / 4 / element.size < count.toNat)) = true := by
      simpa using many
    rw [if_pos (.inr many), if_pos checked]
    exact ⟨rfl, _, is_withContext _ _, rfl⟩
  have checked : ¬(decide (0 < element.size) && decide (maxInt / 4 / element.size < count.toNat)) = true := by
    simpa using many
  rw [if_neg (fun either => either.elim negative many), if_neg checked]
  split
  · rename_i overLimit
    rw [if_pos overLimit] at limited
    obtain ⟨unchanged, error, names, declined⟩ := limited
    rw [run_bind, ← Prod.eta ((checkLimit _).run.run allocator), declined, unchanged]
    exact ⟨rfl, error, names, rfl⟩
  · rename_i within
    rw [if_neg within] at limited
    simp only [run_bind, limited, reserveArea, run_get, run_set, run_pure]
    rfl

/-- A typed request is decided in this order: a negative count, or more elements than a quarter
of the largest machine integer holds, is an overflow; a rounded length above a non-zero block
size limit is out of memory; otherwise the frame is reserved at the next base and enrolled. -/
theorem allocateFrame_decided (element : ElementType) (count : Int) (tag : String) (allocator : Allocator) :
    let ran := (allocateFrame element count tag).run.run allocator
    let region := frameRegionAt element count.toNat allocator.space.nextBase
    if count < 0 ∨ (0 < element.size ∧ maxInt / 4 / element.size < count.toNat) then
      Refusal .sizeOverflow allocator ran.1 ran.2
    else if 0 < allocator.settings.maxBlockSize ∧
        allocator.settings.maxBlockSize < roundLength (element.size * count.toNat) then
      Refusal .outOfMemory allocator ran.1 ran.2
    else ran = (.ok (.ok ⟨some region.payload, element.size * count.toNat⟩),
      enrolled region (frameRequestOf element count.toNat tag)
        { allocator with space := (allocator.space.reserve region.total).2 }) := by
  have decided := frameRegion_decided element count allocator
  dsimp only at decided ⊢
  unfold allocateFrame
  rw [run_bind, run_get]
  dsimp only
  split
  · rename_i overflows
    rw [if_pos overflows] at decided
    apply Refusal.of_declines _ decided
    intro error
    exact ⟨_, _, _, rfl⟩
  · rename_i fits
    rw [if_neg fits] at decided
    split
    · rename_i overLimit
      rw [if_pos overLimit] at decided
      apply Refusal.of_declines _ decided
      intro error
      exact ⟨_, _, _, rfl⟩
    · rename_i within
      rw [if_neg within] at decided
      simp only [run_bind, decided, enroll_run, run_pure]
      rfl

/-- Constructing a value is decided as the frame for one element: refused as an overflow for an
element larger than a quarter of the largest machine integer, then by the block size limit;
otherwise the value is written into its frame. -/
theorem construct_decided (element : ElementType) (value : List UInt8) (tag : String) (allocator : Allocator) :
    let ran := (construct element value tag).run.run allocator
    let region := frameRegionAt element 1 allocator.space.nextBase
    if maxInt / 4 < element.size then Refusal .sizeOverflow allocator ran.1 ran.2
    else if 0 < allocator.settings.maxBlockSize ∧ allocator.settings.maxBlockSize < roundLength element.size then
      Refusal .outOfMemory allocator ran.1 ran.2
    else ran = (.ok (.ok ⟨some region.payload, element.size⟩),
      { enrolled region (frameRequestOf element 1 tag) { allocator with space := (allocator.space.reserve region.total).2 }
        with space := Space.write region.payload value (enrolled region (frameRequestOf element 1 tag)
          { allocator with space := (allocator.space.reserve region.total).2 }).space }) := by
  have decided := allocateFrame_decided element 1 tag allocator
  -- one element overflows exactly when the element alone passes a quarter of the largest integer
  have single : ((1 : Int) < 0 ∨ (0 < element.size ∧ maxInt / 4 / element.size < (1 : Int).toNat)) ↔
      maxInt / 4 < element.size := by
    rcases Nat.eq_zero_or_pos element.size with empty | positive
    · simp [empty]
    · simp [positive, Nat.div_lt_one_iff positive]
  simp only [Int.toNat_one, Nat.mul_one] at decided single
  dsimp only at decided ⊢
  unfold construct
  split
  · rename_i large
    rw [if_pos (single.mpr large)] at decided
    apply Refusal.passed _ decided
    intro error
    rfl
  · rename_i small
    rw [if_neg (fun overflows => small (single.mp overflows))] at decided
    split
    · rename_i overLimit
      rw [if_pos overLimit] at decided
      apply Refusal.passed _ decided
      intro error
      rfl
    · rename_i within
      rw [if_neg within] at decided
      simp only [run_bind, decided, writeBytes, run_modify, run_pure, Option.getD_some, Int.natCast_one, Int.mul_one]

/-! ### Every request -/

end Allocator

end HeapKit.Memory
