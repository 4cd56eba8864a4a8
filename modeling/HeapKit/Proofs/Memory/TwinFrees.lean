import HeapKit.Proofs.Memory.TwinSteps
import HeapKit.Proofs.Memory.TwinReleases

/-!
# Releases on twin allocators

A release on twin allocators, of an address that is nil, not word-aligned, or the payload of a
placed block, runs in agreement (`Agree`) on both sides, as long as the history has room for
every freed block. The nil block and a misaligned address are refused alike before either
backend looks. A live block passes every check on both sides: the counting backend reads the
header it stamped, the tracking backend finds the block in its slot with the header and tail it
stamped. Both then check the kind, report a mismatch alike, and free the block. A freed block
is a double free on both sides: the counting backend reads the freed tags, the tracking backend
finds the address in its history, which it moves to the front.

Each refusal is a `Rejected` release: one report, and the condition's error or a stop at the
report under the abort policy.
-/

namespace HeapKit.Memory

open HeapKit.Endian Allocator

/-! ### Refused releases -/

/-- A release refused for `condition`: one report more, and the condition's error, or a stop at
the report under the abort policy. -/
structure Rejected (condition : Condition) (allocator : Allocator) (result : Except Fault (Option MemError))
    (next : Allocator) : Prop where
  reported : next.reportCount = allocator.reportCount + 1
  answered : if allocator.reporter.abortOnError then ∃ fault, result = .error fault
    else result = .ok (some (.of condition))

section Rejections

variable {condition : Condition} {allocator next : Allocator} {result : Except Fault (Option MemError)}

/-- Reporting a block error and answering the error of a condition refuses the release, and
changes only the reports. -/
theorem rejected_blockError {reason block message : String}
    (run : (blockError reason block message >>= fun _ =>
      (pure (some (.of condition)) : AllocM (Option MemError))).run.run allocator = (result, next)) :
    Rejected condition allocator result next ∧ next.core = allocator.core := by
  obtain ⟨reported, kept⟩ := blockError_run reason block message allocator
  have answer := blockError_result reason block message allocator
  rw [run_bind] at run
  rcases reporting : (blockError reason block message).run.run allocator with ⟨outcome, reportedState⟩
  rw [reporting] at run reported kept answer
  dsimp only at reported kept answer run
  cases aborting : allocator.reporter.abortOnError
  · rw [aborting, if_neg Bool.false_ne_true] at answer
    subst answer
    cases run
    exact ⟨⟨reported, by simp [aborting]⟩, kept⟩
  · rw [aborting, if_pos rfl] at answer
    subst answer
    cases run
    exact ⟨⟨reported, by simp [aborting]⟩, kept⟩

/-- A refusal counted from a state that differs only where reports do not look is a refusal from
the first. -/
theorem Rejected.of_reports {middle : Allocator} (rejected : Rejected condition middle result next)
    (sameReports : middle.reportCount = allocator.reportCount) (sameReporter : middle.reporter = allocator.reporter) :
    Rejected condition allocator result next :=
  ⟨rejected.reported.trans (by rw [sameReports]), sameReporter ▸ rejected.answered⟩

end Rejections

/-- A kind check of a block of another kind refuses with the kind mismatch. -/
theorem checkKind_rejected {header : Header} {expected : BlockKind} {block : String} {allocator next : Allocator}
    {result : Except Fault (Option MemError)} (differs : header.kind ≠ expected.code)
    (run : (checkKind header expected block).run.run allocator = (result, next)) :
    Rejected .kindMismatch allocator result next ∧ next.core = allocator.core := by
  unfold checkKind at run
  rw [if_neg (by simpa using differs)] at run
  cases expected
  all_goals
    dsimp only at run
    exact rejected_blockError run

theorem checkKind_congr {header other : Header} (same : header.kind = other.kind) (expected : BlockKind) (block : String) :
    checkKind header expected block = checkKind other expected block := by
  unfold checkKind
  rw [same]

/-- The nil block and a misaligned address are refused before the leak check has run, each with
its condition, changing only the reports. -/
theorem free_refused {allocator next : Allocator} (unchecked : allocator.leakRan = false) {address : Option Nat}
    {length : Int} {kind : BlockKind} {result : Except Fault (Option MemError)}
    (run : (free ⟨address, length⟩ kind).run.run allocator = (result, next)) :
    (address = none → Rejected .nilBlock allocator result next ∧ next.core = allocator.core) ∧
      (∀ payload, address = some payload → payload % minimumAlignment ≠ 0 →
        Rejected .illegalPointer allocator result next ∧ next.core = allocator.core) := by
  unfold free precheck at run
  simp only [run_bind, run_get, unchecked, Bool.false_eq_true, if_false] at run
  refine ⟨fun absent => ?_, fun payload present misaligned => ?_⟩
  · subst absent
    apply rejected_blockError
    rw [← run, run_bind]
    rcases (blockError _ _ _).run.run allocator with ⟨_ | _, _⟩ <;> rfl
  · subst present
    simp only [bne_iff_ne, ne_eq, misaligned, not_false_eq_true, if_true] at run
    apply rejected_blockError
    rw [← run, run_bind]
    rcases (blockError _ _ _).run.run allocator with ⟨_ | _, _⟩ <;> rfl

namespace Books

variable {allocator : Allocator} {placed before after : List Placed} {block : Placed}

theorem settings_retired (header : Header) (payload : Nat) (allocator : Allocator) :
    (retired header payload allocator).settings = allocator.settings := by
  unfold retired released
  split
  · rfl
  · dsimp only
    split <;> rfl

theorem settings_freedPlaced (block : Placed) : (allocator.freedPlaced block).settings = allocator.settings := by
  unfold Allocator.freedPlaced
  split <;> simp only [countedFree, trackedFree, settings_retired]

/-- A free of a live placed block checks the kind of the header each backend stamped, under the
name it gives the block, and then frees the block with the check's answer, unless the check
stopped. -/
theorem free_live_run (books : Books allocator (before ++ block :: after)) (live : block.live = true)
    (unchecked : allocator.leakRan = false) (kind : BlockKind) (length : Int) :
    ∃ name, (Allocator.free ⟨some block.payload, length⟩ kind).run.run allocator =
      match (checkKind block.header kind name).run.run allocator with
      | (.ok mismatch, middle) => (.ok mismatch, middle.freedPlaced block)
      | (.error fault, middle) => (.error fault, middle) := by
  have member : block ∈ before ++ block :: after := by simp
  have laid := books.laid block member
  have header := books.header_read member
  rw [books.free_placed member unchecked]
  rcases backend : allocator.backend with counters | tracker
  · -- the counting backend finds the live header it stamped and names the block by its address
    refine ⟨addressName block.payload, ?_⟩
    unfold freeCounted
    rw [backend] at header
    simp only [run_bind, loadHeader_run, header, Placed.current_of_live live, Placed.stampedBy,
      Header.isFreed_of_isValid laid.valid, laid.valid, Bool.not_true, Bool.false_eq_true, if_false]
    rcases checking : (checkKind block.header kind (addressName block.payload)).run.run allocator with
      ⟨_ | mismatch, middle⟩
    · rfl
    · have kept := (checkKind_cases checking).1
      simp only [run_modify, retire_run, run_pure]
      unfold freedPlaced
      rw [backend_eq_of_core kept, backend]
      rfl
  · -- the tracking backend finds the block in its slot and names it by its tag
    refine ⟨block.entry.tag, ?_⟩
    unfold freeTracked
    rw [backend] at header
    have tabled := books.tabled backend
    have entry := tabled.entries block member live
    have tail := books.tail_read member
    simp only [books.slotOf_live backend member live, run_bind, loadHeader_run, header, Placed.current_of_live live,
      Placed.stampedBy, entry, Option.getD_some, Placed.trackedHeader_isValid, laid.valid,
      tabled.trackedHeader_slot member live, Placed.trackedHeader_length, laid.length, bne_self_eq_false,
      Bool.not_true, Bool.or_false, Bool.false_eq_true, if_false, loadTail_run, Placed.trackedHeader_tailOffset,
      tail, Placed.tailTag_of_live live, checkKind_congr (Placed.trackedHeader_kind block)]
    rcases checking : (checkKind block.header kind block.entry.tag).run.run allocator with ⟨_ | mismatch, middle⟩
    · rfl
    · have kept := (checkKind_cases checking).1
      simp only [run_modify, retire_run, run_pure]
      unfold freedPlaced
      rw [backend_eq_of_core kept, backend]
      simp only [trackedFree, entry, Option.getD_some, Placed.trackedHeader_length, laid.length]

/-- A free of a live placed block through the other API reports the kind mismatch once, then
stops under the abort policy, or frees the block and answers the mismatch. -/
theorem free_live_differs (books : Books allocator (before ++ block :: after)) (live : block.live = true)
    (unchecked : allocator.leakRan = false) {kind : BlockKind} (differs : block.header.kind ≠ kind.code)
    (length : Int) :
    ∃ middle : Allocator, middle.core = allocator.core ∧ middle.reportCount = allocator.reportCount + 1 ∧
      ((allocator.reporter.abortOnError = true ∧
          ∃ fault, (Allocator.free ⟨some block.payload, length⟩ kind).run.run allocator = (.error fault, middle)) ∨
        (allocator.reporter.abortOnError = false ∧
          (Allocator.free ⟨some block.payload, length⟩ kind).run.run allocator =
            (.ok (some (.of .kindMismatch)), middle.freedPlaced block))) := by
  obtain ⟨name, running⟩ := books.free_live_run live unchecked kind length
  rcases checking : (checkKind block.header kind name).run.run allocator with ⟨outcome, middle⟩
  obtain ⟨⟨reported, answered⟩, kept⟩ := checkKind_rejected differs checking
  rw [checking] at running
  refine ⟨middle, kept, reported, ?_⟩
  cases aborting : allocator.reporter.abortOnError
  · rw [aborting, if_neg Bool.false_ne_true] at answered
    subst answered
    exact .inr ⟨rfl, running⟩
  · rw [aborting, if_pos rfl] at answered
    obtain ⟨fault, rfl⟩ := answered
    exact .inl ⟨rfl, fault, running⟩

/-- The counting backend reads the freed tags of a freed placed block: a double free. -/
theorem free_freed_counted (books : Books allocator placed) {counters : Counters}
    (backend : allocator.backend = .lockfree counters) (member : block ∈ placed) (freed : block.live = false)
    (unchecked : allocator.leakRan = false) (kind : BlockKind) (length : Int) :
    (Allocator.free ⟨some block.payload, length⟩ kind).run.run allocator =
      (blockError "double_free" (addressName block.payload) "double free" >>= fun _ =>
        (pure (some (.of .doubleFree)) : AllocM (Option MemError))).run.run allocator := by
  have header := books.header_read member
  rw [backend, Placed.current_of_freed freed] at header
  rw [books.free_placed member unchecked, backend]
  unfold freeCounted
  simp only [run_bind, loadHeader_run, header, Placed.stampedBy, Header.isFreed_markFreed, if_true]

/-- The tracking backend does not find a freed placed block in its table; when its history
remembers the address, it moves the address to the front and reports a double free. -/
theorem free_freed_tracked (books : Books allocator placed) {tracker : Tracker}
    (backend : allocator.backend = .guarded tracker) (member : block ∈ placed) (freed : block.live = false)
    (unchecked : allocator.leakRan = false) {current : FreedHistory} (history : tracker.history = some current)
    {tag : String} (found : (current.lookup block.payload).1 = some tag) (kind : BlockKind) (length : Int) :
    (Allocator.free ⟨some block.payload, length⟩ kind).run.run allocator =
      (blockError "double_free" tag "double free" >>= fun _ =>
        (pure (some (.of .doubleFree)) : AllocM (Option MemError))).run.run
        (Allocator.lookedUp tracker block.payload allocator) := by
  rw [books.free_placed member unchecked, backend]
  unfold freeTracked
  simp only [books.slotOf_freed backend member freed, history]
  rcases looking : current.lookup block.payload with ⟨answer, later⟩
  rw [looking] at found
  subst found
  simp only [run_bind, run_modify]
  unfold Allocator.lookedUp
  rw [history]
  dsimp only
  rw [looking]

end Books

/-! ### Twins keep the books of each side -/

namespace Twins

variable {left right : Allocator} {placed : List Placed}

/-- The counting twin keeps the books over the placed blocks. -/
theorem leftBooks (twins : Twins left right placed) : Books left placed where
  apart := twins.leftApart
  aligned := twins.aligned
  laid := twins.laid
  separate := twins.apart
  stored := by
    rw [twins.counting]
    exact twins.leftStored
  counted := by
    rw [twins.counting]
    exact ⟨by rw [twins.blocks.1, twins.blocks.2], by rw [twins.bytes.1, twins.bytes.2]⟩

/-- The tracking twin keeps the books over the placed blocks. -/
theorem rightBooks (twins : Twins left right placed) : Books right placed where
  apart := twins.rightApart
  aligned := twins.nextBase ▸ twins.aligned
  laid := twins.laid
  separate := twins.apart
  stored := by
    rw [twins.tracking]
    exact twins.rightStored
  counted := by
    rw [twins.tracking]
    exact ⟨twins.blocks.2, twins.bytes.2, twins.table, twins.entries, twins.slots⟩

/-- No two placed blocks are freed at one address. -/
theorem freedPayloads_nodup (twins : Twins left right placed) : (freedPayloads placed).Nodup := by
  have distinct : (placed.map Placed.payload).Nodup := by
    rw [List.Nodup, List.pairwise_map]
    exact twins.apart.imp_of_mem fun first second disjoint =>
      (twins.laid _ first).payload_ne (twins.laid _ second) disjoint
  exact distinct.sublist (List.filter_sublist.map _)

/-- Freeing a live block on both sides, each as its backend does, keeps the twins. -/
theorem freedPlaced {before after : List Placed} {block : Placed} (twins : Twins left right (before ++ block :: after))
    (live : block.live = true) :
    Twins (left.freedPlaced block) (right.freedPlaced block) (before ++ block.freed :: after) := by
  unfold Allocator.freedPlaced
  rw [twins.counting, twins.tracking]
  exact twins.free live

end Twins

/-! ### What a release leaves -/

section ReleasedAt

variable (settings : Settings) (placed : List Placed)

/-- Twins over the placed blocks, under `settings`. -/
def Kept (left right : Allocator) : Prop :=
  left.settings = settings ∧ Twins left right placed

/-- Twins after a release at an address answered `outcome`. A release that freed (no error, or
only the kind mismatch) freed the live block at the address, which was of the kind released when
there was no error; any other release kept the placed blocks. -/
def ReleasedAt (address : Option Nat) (kind : BlockKind) (outcome : Option MemError) (left right : Allocator) : Prop :=
  if (Shown.ofRelease (.ok outcome)).frees then
    left.settings = settings ∧ ∃ before block after, placed = before ++ block :: after ∧ block.live = true ∧
      address = some block.payload ∧ (outcome = none → block.header.kind = kind.code) ∧
      Twins left right (before ++ block.freed :: after)
  else Kept settings placed left right

variable {settings placed}

theorem Kept.of_core {left right left' right' : Allocator} (kept : Kept settings placed left right)
    (leftCore : left'.core = left.core) (rightCore : right'.core = right.core) : Kept settings placed left' right' :=
  ⟨(congrArg Allocator.settings leftCore).trans kept.1, Twins.stable placed left right left' right' kept.2 leftCore rightCore⟩

/-- A release that freed the live block at its address leaves the twins over the block freed. -/
theorem ReleasedAt.of_freed {address : Option Nat} {kind : BlockKind} {outcome : Option MemError}
    {left right : Allocator} {before after : List Placed} {block : Placed}
    (frees : (Shown.ofRelease (.ok outcome)).frees = true) (settingsIs : left.settings = settings)
    (live : block.live = true) (named : address = some block.payload)
    (kindIs : outcome = none → block.header.kind = kind.code)
    (twins : Twins left right (before ++ block.freed :: after)) :
    ReleasedAt settings (before ++ block :: after) address kind outcome left right := by
  unfold ReleasedAt
  rw [if_pos frees]
  exact ⟨settingsIs, before, block, after, rfl, live, named, kindIs, twins⟩

/-- A release that returned no error freed the live block of the released kind at its address. -/
theorem ReleasedAt.freed {address : Option Nat} {kind : BlockKind} {left right : Allocator}
    (released : ReleasedAt settings placed address kind none left right) :
    left.settings = settings ∧ ∃ before block after, placed = before ++ block :: after ∧ block.live = true ∧
      address = some block.payload ∧ block.header.kind = kind.code ∧
      Twins left right (before ++ block.freed :: after) := by
  unfold ReleasedAt at released
  rw [if_pos (show (Shown.ofRelease (.ok none)).frees = true from rfl)] at released
  obtain ⟨settingsIs, before, block, after, split, live, named, kindIs, twins⟩ := released
  exact ⟨settingsIs, before, block, after, split, live, named, kindIs rfl, twins⟩

/-- A refusal other than the kind mismatch frees nothing. -/
theorem frees_rejected {condition : Condition} (keeps : condition ≠ .kindMismatch) :
    (Shown.ofRelease (.ok (some (.of condition)))).frees = false := by
  cases condition <;> first | exact absurd rfl keeps | rfl

/-- Releases refused on both sides for one condition, other than the kind mismatch, agree. -/
theorem agree_rejected {condition : Condition} (keeps : condition ≠ .kindMismatch) {address : Option Nat}
    {kind : BlockKind} {left right : Allocator} {leftRun rightRun : Except Fault (Option MemError) × Allocator}
    (leftRejected : Rejected condition left leftRun.1 leftRun.2)
    (rightRejected : Rejected condition right rightRun.1 rightRun.2)
    (abort : left.reporter.abortOnError = right.reporter.abortOnError) (kept : Kept settings placed leftRun.2 rightRun.2) :
    Agree (ReleasedAt settings placed address kind) (Kept settings placed) left right leftRun rightRun := by
  refine ⟨⟨1, leftRejected.reported, rightRejected.reported⟩, ?_⟩
  have leftAnswer := leftRejected.answered
  have rightAnswer := rightRejected.answered
  rw [abort] at leftAnswer
  cases aborting : right.reporter.abortOnError
  · rw [aborting, if_neg Bool.false_ne_true] at leftAnswer rightAnswer
    refine .inl ⟨some (.of condition), leftAnswer, rightAnswer, ?_⟩
    unfold ReleasedAt
    rw [frees_rejected keeps, if_neg Bool.false_ne_true]
    exact kept
  · rw [aborting, if_pos rfl] at leftAnswer rightAnswer
    exact .inr ⟨leftAnswer, rightAnswer, kept⟩

end ReleasedAt

/-! ### Releases on twins -/

namespace Twins

variable {settings : Settings} {placed : List Placed} {left right : Allocator}

section Agreeing

variable (twins : Twins left right placed) (settingsIs : left.settings = settings) (unchecked : left.leakRan = false)
include twins settingsIs unchecked

/-- The nil block and a misaligned address are refused alike on both sides. -/
theorem agree_unnamed {address : Option Nat}
    (unnamed : address = none ∨ ∃ payload, address = some payload ∧ payload % minimumAlignment ≠ 0)
    (kind : BlockKind) (length : Int) :
    Agree (ReleasedAt settings placed address kind) (Kept settings placed) left right
      ((Allocator.free ⟨address, length⟩ kind).run.run left) ((Allocator.free ⟨address, length⟩ kind).run.run right) := by
  rcases leftRunning : (Allocator.free ⟨address, length⟩ kind).run.run left with ⟨leftResult, leftNext⟩
  rcases rightRunning : (Allocator.free ⟨address, length⟩ kind).run.run right with ⟨rightResult, rightNext⟩
  have leftRefused := free_refused unchecked leftRunning
  have rightRefused := free_refused (twins.leakRan ▸ unchecked) rightRunning
  have abort : left.reporter.abortOnError = right.reporter.abortOnError := by rw [twins.reporter]
  rcases unnamed with absent | ⟨payload, present, misaligned⟩
  · obtain ⟨leftRejected, leftKept⟩ := leftRefused.1 absent
    obtain ⟨rightRejected, rightKept⟩ := rightRefused.1 absent
    exact agree_rejected (by decide) leftRejected rightRejected abort
      (Kept.of_core ⟨settingsIs, twins⟩ leftKept rightKept)
  · obtain ⟨leftRejected, leftKept⟩ := leftRefused.2 payload present misaligned
    obtain ⟨rightRejected, rightKept⟩ := rightRefused.2 payload present misaligned
    exact agree_rejected (by decide) leftRejected rightRejected abort
      (Kept.of_core ⟨settingsIs, twins⟩ leftKept rightKept)

/-- A freed placed block is a double free on both sides, while the history has room for every
freed block. -/
theorem agree_freed (fits : (freedPayloads placed).length ≤ historyCapacity settings) {block : Placed}
    (member : block ∈ placed) (freed : block.live = false) (kind : BlockKind) (length : Int) :
    Agree (ReleasedAt settings placed (some block.payload) kind) (Kept settings placed) left right
      ((Allocator.free ⟨some block.payload, length⟩ kind).run.run left)
      ((Allocator.free ⟨some block.payload, length⟩ kind).run.run right) := by
  have remembered : block.payload ∈ freedPayloads placed :=
    List.mem_map_of_mem (List.mem_filter.mpr ⟨member, by simp [freed]⟩)
  obtain ⟨current, tag, history, found, remembers⟩ :=
    twins.history.lookup twins.freedPayloads_nodup (settingsIs ▸ fits) remembered
  have leftRun := twins.leftBooks.free_freed_counted twins.counting member freed unchecked kind length
  have rightRun := twins.rightBooks.free_freed_tracked twins.tracking member freed (twins.leakRan ▸ unchecked)
    history found kind length
  rcases leftRunning : (Allocator.free ⟨some block.payload, length⟩ kind).run.run left with ⟨leftResult, leftNext⟩
  rcases rightRunning : (Allocator.free ⟨some block.payload, length⟩ kind).run.run right with ⟨rightResult, rightNext⟩
  rw [leftRunning] at leftRun
  rw [rightRunning] at rightRun
  obtain ⟨leftRejected, leftKept⟩ := rejected_blockError leftRun.symm
  obtain ⟨rightRejected, rightKept⟩ := rejected_blockError rightRun.symm
  -- looking the address up changes neither the reports nor the reporter
  have looked : (Allocator.lookedUp right.tracker block.payload right).journal = right.journal ∧
      (Allocator.lookedUp right.tracker block.payload right).reporter = right.reporter := by
    unfold Allocator.lookedUp
    split <;> exact ⟨rfl, rfl⟩
  refine agree_rejected (by decide) leftRejected
    (rightRejected.of_reports (by unfold reportCount; rw [looked.1]) looked.2) (by rw [twins.reporter]) ?_
  exact Kept.of_core ⟨settingsIs, twins.lookedUp history remembers⟩ leftKept rightKept

end Agreeing

section Live

variable {before after : List Placed} {block : Placed}
  (twins : Twins left right (before ++ block :: after)) (settingsIs : left.settings = settings)
  (unchecked : left.leakRan = false) (live : block.live = true)
include twins settingsIs unchecked live

/-- A live placed block is freed alike on both sides; through the other API both report the
kind mismatch, then stop alike under the abort policy or free the block alike. -/
theorem agree_live (kind : BlockKind) (length : Int) :
    Agree (ReleasedAt settings (before ++ block :: after) (some block.payload) kind)
      (Kept settings (before ++ block :: after)) left right
      ((Allocator.free ⟨some block.payload, length⟩ kind).run.run left)
      ((Allocator.free ⟨some block.payload, length⟩ kind).run.run right) := by
  have rightUnchecked : right.leakRan = false := twins.leakRan ▸ unchecked
  by_cases sameKind : block.header.kind = kind.code
  · -- both free the block and answer no error
    rw [twins.leftBooks.free_live live unchecked sameKind, twins.rightBooks.free_live live rightUnchecked sameKind]
    refine agree_returns none (congrArg (·.reports.size) (Books.journal_freedPlaced block))
      (congrArg (·.reports.size) (Books.journal_freedPlaced block)) ?_
    exact ReleasedAt.of_freed rfl ((Books.settings_freedPlaced block).trans settingsIs) live rfl
      (fun _ => sameKind) (twins.freedPlaced live)
  · -- both report the mismatch, and the abort policy decides alike whether they go on
    obtain ⟨leftMiddle, leftCore, leftReports, leftEnds⟩ :=
      twins.leftBooks.free_live_differs live unchecked sameKind length
    obtain ⟨rightMiddle, rightCore, rightReports, rightEnds⟩ :=
      twins.rightBooks.free_live_differs live rightUnchecked sameKind length
    have middles := Twins.stable _ left right leftMiddle rightMiddle twins leftCore rightCore
    have middleSettings : leftMiddle.settings = settings := (congrArg Allocator.settings leftCore).trans settingsIs
    have abort : left.reporter.abortOnError = right.reporter.abortOnError := by rw [twins.reporter]
    rcases leftEnds with ⟨leftAborts, fault, leftRun⟩ | ⟨leftGoes, leftRun⟩ <;>
      rcases rightEnds with ⟨rightAborts, fault', rightRun⟩ | ⟨rightGoes, rightRun⟩ <;>
      rw [leftRun, rightRun]
    · exact agree_stops 1 leftReports rightReports ⟨middleSettings, middles⟩
    · rw [abort, rightGoes] at leftAborts
      cases leftAborts
    · rw [abort, rightAborts] at leftGoes
      cases leftGoes
    · refine ⟨⟨1, ?_, ?_⟩, .inl ⟨some (.of .kindMismatch), rfl, rfl, ?_⟩⟩
      · rw [← leftReports]
        exact congrArg (·.reports.size) (Books.journal_freedPlaced block)
      · rw [← rightReports]
        exact congrArg (·.reports.size) (Books.journal_freedPlaced block)
      exact ReleasedAt.of_freed (by decide) ((Books.settings_freedPlaced block).trans middleSettings) live rfl
        (fun absent => nomatch absent) (middles.freedPlaced live)

end Live

/-- A release of an address that is nil, misaligned, or the payload of a placed block runs alike
on twins, while the history has room for every freed block. -/
theorem agree_free (twins : Twins left right placed) (settingsIs : left.settings = settings)
    (unchecked : left.leakRan = false) (fits : (freedPayloads placed).length ≤ historyCapacity settings)
    {address : Option Nat}
    (named : address = none ∨ (∃ payload, address = some payload ∧ payload % minimumAlignment ≠ 0) ∨
      ∃ block ∈ placed, address = some block.payload)
    (kind : BlockKind) (length : Int) :
    Agree (ReleasedAt settings placed address kind) (Kept settings placed) left right
      ((Allocator.free ⟨address, length⟩ kind).run.run left) ((Allocator.free ⟨address, length⟩ kind).run.run right) := by
  rcases named with absent | misaligned | ⟨block, member, rfl⟩
  · exact twins.agree_unnamed settingsIs unchecked (.inl absent) kind length
  · exact twins.agree_unnamed settingsIs unchecked (.inr misaligned) kind length
  · cases live : block.live
    · exact twins.agree_freed settingsIs unchecked fits member live kind length
    · obtain ⟨before, after, rfl⟩ := List.append_of_mem member
      exact twins.agree_live settingsIs unchecked live kind length

end Twins

/-! ### Typed releases on twins -/

theorem Shown.payload_ofRelease (outcome : Except Fault (Option MemError)) : (Shown.ofRelease outcome).payload? = none := by
  rcases outcome with _ | _ | _ <;> rfl

namespace Twins

variable {settings : Settings} {placed : List Placed} {left right : Allocator}

/-- A program that looks before it goes on as `rest` runs on twins as `rest` runs from the twins
it looked at. -/
theorem agree_skips {α : Type} {post : α → Allocator → Allocator → Prop} {halted : Allocator → Allocator → Prop}
    {operation rest : AllocM α} (skips : Skips operation rest) (twins : Twins left right placed)
    (settingsIs : left.settings = settings) (unchecked : left.leakRan = false)
    (agrees : ∀ left' right', Twins left' right' placed → left'.settings = settings → left'.leakRan = false →
      Agree post halted left' right' (rest.run.run left') (rest.run.run right')) :
    Agree post halted left right (operation.run.run left) (operation.run.run right) := by
  obtain ⟨leftMiddle, leftCore, leftReports, leftRun⟩ := skips left
  obtain ⟨rightMiddle, rightCore, rightReports, rightRun⟩ := skips right
  rw [leftRun, rightRun]
  refine (agrees leftMiddle rightMiddle (Twins.stable placed left right leftMiddle rightMiddle twins leftCore rightCore)
    ?_ ?_).rebase leftReports rightReports
  · exact (congrArg Allocator.settings leftCore).trans settingsIs
  · exact (Allocator.leakRan_eq_of_core leftCore).trans unchecked

section Typed

variable (twins : Twins left right placed) (settingsIs : left.settings = settings) (unchecked : left.leakRan = false)
  (fits : (freedPayloads placed).length ≤ historyCapacity settings) {address : Option Nat}
  (named : address = none ∨ (∃ payload, address = some payload ∧ payload % minimumAlignment ≠ 0) ∨
    ∃ block ∈ placed, address = some block.payload)
include twins settingsIs unchecked fits named

/-- A typed free that clears `clear` bytes at the address when it succeeded runs alike on twins,
while the clearing stays inside any typed block at the address. -/
theorem agree_freeThenClear {clear : Nat}
    (within : ∀ block ∈ placed, address = some block.payload → block.header.kind = BlockKind.typed.code →
      clear ≤ block.entry.length) (length : Int) :
    Agree (ReleasedAt settings placed address .typed) (Kept settings placed) left right
      ((Allocator.free ⟨address, length⟩ .typed >>= fun outcome =>
        if outcome.isNone = true then writeBytes (address.getD 0) (List.replicate clear 0) >>= fun _ => pure outcome
        else pure outcome).run.run left)
      ((Allocator.free ⟨address, length⟩ .typed >>= fun outcome =>
        if outcome.isNone = true then writeBytes (address.getD 0) (List.replicate clear 0) >>= fun _ => pure outcome
        else pure outcome).run.run right) := by
  refine (twins.agree_free settingsIs unchecked fits named .typed length).bind
    fun outcome leftNext rightNext released => ?_
  cases outcome with
  | some error =>
    -- an error clears nothing
    exact agree_returns (some error) rfl rfl released
  | none =>
    -- the free hit a live typed block at the address, and the clearing stays inside it
    obtain ⟨sameSettings, before, block, after, rfl, live, rfl, typed, freedTwins⟩ := released.freed
    rw [if_pos Option.isNone_none, run_bind, run_bind, writeBytes_run, writeBytes_run]
    refine agree_returns none rfl rfl (ReleasedAt.of_freed rfl sameSettings live rfl (fun _ => typed) ?_)
    have cleared := within block (by simp) rfl typed
    refine freedTwins.write_payload (show block.freed ∈ before ++ block.freed :: after by simp) le_rfl ?_
    rw [List.length_replicate]
    exact Nat.add_le_add_left cleared _

/-- A destroy runs alike on twins, while clearing the value stays inside any typed block at the
address. -/
theorem agree_destroy {element : ElementType}
    (within : ∀ block ∈ placed, address = some block.payload → block.header.kind = BlockKind.typed.code →
      element.size ≤ block.entry.length) :
    Agree (ReleasedAt settings placed address .typed) (Kept settings placed) left right
      ((Allocator.destroy element address).run.run left) ((Allocator.destroy element address).run.run right) := by
  cases address with
  | none => exact twins.agree_free settingsIs unchecked fits named .typed 0
  | some payload =>
    -- the finalizer only looks, so the destroy runs as the free that follows it
    refine twins.agree_skips ?_ settingsIs unchecked fun left' right' twins' settings' unchecked' =>
      twins'.agree_freeThenClear settings' unchecked' fits named within element.size
    unfold Allocator.destroy
    exact skips_look (quiet_isLive _) (quiet_finalize payload)

section Arrays

variable {capacity : Nat} (nonempty : capacity ≠ 0) {element : ElementType}
  (within : ∀ block ∈ placed, address = some block.payload → block.header.kind = BlockKind.typed.code →
    capacity * element.size ≤ block.entry.length)
include nonempty within

/-- An array free of some capacity runs alike on twins, while clearing the capacity's elements
stays inside any typed block at the address. -/
theorem agree_freeArray :
    Agree (ReleasedAt settings placed address .typed) (Kept settings placed) left right
      ((Allocator.freeArray element address capacity).run.run left)
      ((Allocator.freeArray element address capacity).run.run right) := by
  unfold Allocator.freeArray
  rw [if_neg (by simpa using nonempty)]
  exact twins.agree_freeThenClear settingsIs unchecked fits named within _

/-- An array destroy of some capacity runs alike on twins, as the array free after its
finalizers. -/
theorem agree_destroyArray :
    Agree (ReleasedAt settings placed address .typed) (Kept settings placed) left right
      ((Allocator.destroyArray element address capacity).run.run left)
      ((Allocator.destroyArray element address capacity).run.run right) := by
  refine twins.agree_skips ?_ settingsIs unchecked fun left' right' twins' settings' unchecked' =>
    twins'.agree_freeArray settings' unchecked' fits named nonempty within
  unfold Allocator.destroyArray
  exact skips_look (quiet_isLive address)
    (quiet_forIn _ _ (fun _ _ => (quiet_finalize _).bind fun _ => quiet_pure _) ⟨⟩)

end Arrays

end Typed

end Twins

/-! ### From releases to steps -/

section Steps

variable {settings : Settings} {placed : List Placed} {left right : Allocator}

/-- Releases that agree, by a call that frees a block, agree as a step: a release that freed marks
its block freed, any other keeps the placed blocks. -/
theorem Allocator.Agree.agrees_released {call : Call} (releases : call.releasesBlock = true) {address : Option Nat}
    {kind : BlockKind} {leftRun rightRun : Except Fault (Option MemError) × Allocator}
    (agree : Agree (ReleasedAt settings placed address kind) (Kept settings placed) left right leftRun rightRun)
    (settingsIs : left.settings = settings) :
    Agrees Shown.ofRelease (.call call) placed left right leftRun rightRun := by
  obtain ⟨reports, outcome⟩ := agree
  rcases outcome with ⟨value, leftValue, rightValue, released⟩ | ⟨⟨leftFault, leftStops⟩, ⟨rightFault, rightStops⟩, kept⟩
  · have shown : Shown.ofRelease leftRun.1 = Shown.ofRelease rightRun.1 := by rw [leftValue, rightValue]
    by_cases frees : (Shown.ofRelease (.ok value)).frees = true
    · -- the release freed the block on both sides
      rw [ReleasedAt, if_pos frees] at released
      obtain ⟨sameSettings, before, block, after, rfl, live, -, -, twins⟩ := released
      refine ⟨shown, reports, sameSettings.trans settingsIs.symm, _, twins, ?_⟩
      rw [leftValue]
      refine .free (Shown.payload_ofRelease _) ?_ live
      rw [Step.freeing_call, releases, frees]
      rfl
    · rw [ReleasedAt, if_neg frees] at released
      refine ⟨shown, reports, released.1.trans settingsIs.symm, placed, released.2, ?_⟩
      rw [leftValue]
      refine .same (Shown.payload_ofRelease _) ?_
      rw [Step.freeing_call, releases]
      simpa using frees
  · refine ⟨by rw [leftStops, rightStops]; rfl, reports, kept.1.trans settingsIs.symm, placed, kept.2, ?_⟩
    rw [leftStops]
    refine .same rfl ?_
    rw [Step.freeing_call, releases]
    rfl

/-- A release that frees nothing and only looks at the state, by a call that frees no block, agrees
as a step on twins. -/
theorem Twins.agrees_untouched {call : Call} (still : call.releasesBlock = false) {operation : AllocM (Option MemError)}
    (skips : Skips operation (pure none)) (twins : Twins left right placed) :
    Agrees Shown.ofRelease (.call call) placed left right (operation.run.run left) (operation.run.run right) := by
  obtain ⟨leftMiddle, leftCore, leftReports, leftRun⟩ := skips left
  obtain ⟨rightMiddle, rightCore, rightReports, rightRun⟩ := skips right
  rw [leftRun, rightRun, run_pure, run_pure]
  have sameSettings := congrArg Allocator.settings leftCore
  refine ⟨rfl, ⟨0, leftReports, rightReports⟩, sameSettings, placed,
    Twins.stable placed left right leftMiddle rightMiddle twins leftCore rightCore, .same rfl ?_⟩
  rw [Step.freeing_call, still]
  rfl

/-- Releases that agree as steps agree once their outcome is the step's reply. -/
theorem Agrees.released {call : Call} {operation : AllocM (Option MemError)}
    (defined : call.run = operation >>= fun outcome => pure (Reply.released outcome))
    (agrees : Agrees Shown.ofRelease (.call call) placed left right (operation.run.run left) (operation.run.run right)) :
    Agrees Shown.of (.call call) placed left right ((Step.call call).run.run.run left)
      ((Step.call call).run.run.run right) := by
  rw [Step.run_call defined, Step.run_call defined]
  refine Agrees.map ?_
  have shows : (fun outcome => Shown.of (outcome.map fun result => some (Reply.released result))) = Shown.ofRelease :=
    funext Shown.of_map_released
  rw [shows]
  exact agrees

end Steps

end HeapKit.Memory
