import HeapKit.Proofs.Memory.TwinFrees
import HeapKit.Proofs.Memory.TwinAllocations

/-!
# The tracking backend's table along every run

A script can keep its own ledger of the blocks it holds, read off the calls it makes and what
they answer (`Ledger`). An allocation that hands out a block adds it last, with the entry the call
asks for: its tag, the bytes it asks for rounded up to four, its kind, and its alignment raised to
a word. A release that frees, with no error or with only the kind mismatch, takes away the block
at the address it named. The ledger also keeps the most bytes its blocks ever took together.

On a source that hands out every address at most once, the heap or a mapping per block, the
tracking backend's table holds that ledger after every run, whatever the script writes into
memory and whatever addresses its releases name (`Ledgered.along`): the table is sound, its chain
holds exactly the entries of the ledger's blocks, oldest first, and its counters are their
number, their bytes and the ledger's peak. One step keeps this (`Ledgered.step`): an allocation
enters its block in a slot no block holds (`Ledgered.enrolled`), a free takes the freed block out
(`Ledgered.trackedFree`), and every other step leaves the table as it was.
-/

namespace HeapKit.Memory

open Allocator

/-! ### Ledgers -/

/-- Whether a source hands out every address at most once: the heap, or a mapping per block. A
chunk source rewinds a chunk once all its regions are back, and hands its addresses out again. -/
def Source.fresh : Source → Bool
  | .chunk _ => false
  | _ => true

/-- The bytes of some entries. -/
def entryBytes (entries : List Entry) : Nat := (entries.map Entry.length).sum

@[simp] theorem entryBytes_append (first second : List Entry) :
    entryBytes (first ++ second) = entryBytes first + entryBytes second := by
  simp [entryBytes]

@[simp] theorem entryBytes_cons (entry : Entry) (rest : List Entry) :
    entryBytes (entry :: rest) = entry.length + entryBytes rest := by
  simp [entryBytes]

@[simp] theorem entryBytes_nil : entryBytes [] = 0 := rfl

/-- The entry of a block made for a request, at a payload address. -/
def Request.entryAt (request : Request) (payload : Nat) : Entry :=
  { payload, tag := request.tag, length := request.length, kind := request.kind,
    alignment := request.alignment }

/-- What a listing says of the block of an entry. -/
def Entry.info (entry : Entry) : BlockInfo :=
  { tag := entry.tag, length := entry.length, address := entry.payload, kind := entry.kind,
    alignment := entry.alignment }

namespace Allocator.Call

/-- The entry of the block an allocation call hands out at a payload address: the call's tag,
the bytes it asks for rounded up to four, its kind, and its alignment raised to a word. A call
that allocates nothing has no entry of its own. -/
def entryAt (call : Call) (payload : Nat) : Entry :=
  match call with
  | malloc size tag | calloc size tag =>
    { payload, tag, length := roundLength size.toNat, kind := .raw, alignment := minimumAlignment }
  | mallocAligned size alignment tag =>
    { payload, tag, length := roundLength size.toNat, kind := .raw,
      alignment := max alignment.toNat minimumAlignment }
  | mallocArray count size tag | callocArray count size tag =>
    { payload, tag, length := roundLength (count * size).toNat, kind := .raw,
      alignment := minimumAlignment }
  | construct element _ tag =>
    { payload, tag, length := roundLength (element.size * 1), kind := .typed,
      alignment := max element.alignment minimumAlignment }
  | newArray element count tag =>
    { payload, tag, length := roundLength (element.size * count.toNat), kind := .typed,
      alignment := max element.alignment minimumAlignment }
  | _ => { (default : Entry) with payload }

/-- The address a release call names. -/
def named : Call → Option Nat
  | free block => block.address
  | destroy _ address | freeArray _ address _ | destroyArray _ address _ => address
  | _ => none

end Allocator.Call

/-- The blocks a script holds, oldest first, and the most bytes they ever took together. -/
structure Ledger where
  live : List Entry
  peak : Nat

namespace Step

/-- The blocks a script holds after a step that showed this: a block handed out joins them last,
and a release of a block that freed it takes away every block at the address the release named. -/
def liveAfter (step : Step) (shown : Shown) (live : List Entry) : List Entry :=
  match step, shown.payload? with
  | call operation, some payload => live ++ [operation.entryAt payload]
  | call operation, none =>
    if operation.releasesBlock && shown.frees then
      live.filter fun entry => some entry.payload != operation.named
    else live
  | write .., _ => live

end Step

namespace Ledger

/-- The bytes of the blocks a ledger holds. -/
def bytes (ledger : Ledger) : Nat := entryBytes ledger.live

/-- The ledger after a step that showed this; its peak is the most bytes its blocks took at any
point. -/
def advance (ledger : Ledger) (step : Step) (shown : Shown) : Ledger :=
  let live := step.liveAfter shown ledger.live
  { live, peak := max ledger.peak (entryBytes live) }

/-- The ledger with one more block, last. -/
def enlist (ledger : Ledger) (entry : Entry) : Ledger :=
  { live := ledger.live ++ [entry], peak := max ledger.peak (entryBytes (ledger.live ++ [entry])) }

/-- The ledger after the blocks at an address are freed. -/
def release (ledger : Ledger) (address : Option Nat) : Ledger :=
  let live := ledger.live.filter fun entry => some entry.payload != address
  { live, peak := max ledger.peak (entryBytes live) }

end Ledger

/-- The ledger along a script's run from an allocator. -/
def ledgerAlong : List Step → Allocator → Ledger → Ledger
  | [], _, ledger => ledger
  | step :: rest, allocator, ledger =>
    let ran := step.run.run.run allocator
    ledgerAlong rest ran.2 (ledger.advance step (Shown.of ran.1))

/-- The allocator at the end of a script's run. -/
def runScript : List Step → Allocator → Allocator
  | [], allocator => allocator
  | step :: rest, allocator => runScript rest (step.run.run.run allocator).2

/-! ### The table holds the ledger -/

/-- The tracking backend's table holds a ledger: the table is sound and its chain holds the
entries of the ledger's blocks in order, and the counters count the blocks, their bytes and the
ledger's peak. -/
structure Tracker.Holds (tracker : Tracker) (ledger : Ledger) : Prop where
  table : ∃ order, tracker.list.Sound order ∧ order.filterMap tracker.list.entryAt? = ledger.live
  blocks : tracker.blocks = ledger.live.length
  bytes : tracker.bytes = ledger.bytes
  peak : tracker.peak = ledger.peak

/-- An allocator switched to the tracking backend, over a source that hands out fresh addresses,
whose table holds a ledger; the ledger's blocks lie below the next area of the space, and its peak
is at least its bytes. -/
structure Allocator.Ledgered (allocator : Allocator) (ledger : Ledger) : Prop where
  fresh : allocator.source.fresh = true
  switched : allocator.switched = true
  tracked : ∃ tracker, allocator.backend = .guarded tracker ∧ tracker.Holds ledger
  below : ∀ entry ∈ ledger.live, entry.payload < allocator.space.nextBase
  peaked : ledger.bytes ≤ ledger.peak

namespace Tracker.Holds

variable {tracker : Tracker} {ledger : Ledger}

/-- Entering a block at an address no held block has keeps the table holding the ledger, with the
block added last. -/
theorem insert (holds : tracker.Holds ledger) (entry : Entry)
    (fresh : ∀ other ∈ ledger.live, other.payload ≠ entry.payload) (history : Option FreedHistory) :
    ({ list := (tracker.list.insert entry).2, history, blocks := tracker.blocks + 1,
       bytes := tracker.bytes + entry.length,
       peak := max tracker.peak (tracker.bytes + entry.length) } : Tracker).Holds (ledger.enlist entry) := by
  obtain ⟨order, sound, entries⟩ := holds.table
  obtain ⟨notMember, bound, -⟩ := sound.allocSlot
  -- the address is in no chained slot, since every chained entry is held
  have untracked : tracker.list.slotOf? entry.payload = none := by
    rcases found : tracker.list.slotOf? entry.payload with _ | slot
    · rfl
    · obtain ⟨member, payloadOf⟩ := (sound.byAddr _ _).mp found
      obtain ⟨other, otherAt, otherPayload⟩ := Option.map_eq_some_iff.mp payloadOf
      have held : other ∈ ledger.live := entries ▸ List.mem_filterMap.mpr ⟨slot, member, otherAt⟩
      exact absurd otherPayload (fresh other held)
  have kept : order.filterMap (tracker.list.insert entry).2.entryAt? = order.filterMap tracker.list.entryAt? :=
    List.filterMap_congr fun slot member => by
      rw [Memlist.insert_entryAt? entry tracker.list bound, if_neg fun same => notMember (by rw [← same]; exact member)]
  refine ⟨⟨order ++ [tracker.list.allocSlot.1], sound.insert entry untracked, ?_⟩, ?_, ?_, ?_⟩
  · rw [List.filterMap_append, kept, entries]
    simp [Memlist.insert_entryAt? entry tracker.list bound, Ledger.enlist]
  · simp [Ledger.enlist, holds.blocks]
  · simp [Ledger.enlist, Ledger.bytes, holds.bytes]
  · simp [Ledger.enlist, holds.peak, holds.bytes, Ledger.bytes]

/-- Taking the block at a tracked address out of the table keeps the table holding the ledger,
without the block there. -/
theorem remove (holds : tracker.Holds ledger) (peaked : ledger.bytes ≤ ledger.peak) {payload slot : Nat}
    (found : tracker.list.slotOf? payload = some slot) (history : Option FreedHistory) {length : Nat}
    (fits : length = ((tracker.list.entryAt? slot).getD default).length) :
    ({ tracker with
        list := tracker.list.remove slot payload, history := history, blocks := tracker.blocks - 1,
        bytes := tracker.bytes - length } : Tracker).Holds (ledger.release (some payload)) := by
  obtain ⟨order, sound, entries⟩ := holds.table
  obtain ⟨member, payloadOf⟩ := (sound.byAddr payload slot).mp found
  obtain ⟨entry, entryAt, entryPayload⟩ := Option.map_eq_some_iff.mp payloadOf
  obtain ⟨before, after, split⟩ := List.append_of_mem member
  have nodup := sound.nodup
  rw [split] at nodup
  have apart : slot ∉ before ∧ slot ∉ after := by
    simp only [List.nodup_append, List.nodup_cons, List.mem_cons] at nodup
    exact ⟨fun inFront => nodup.2.2 slot inFront slot (.inl rfl) rfl, nodup.2.1.1⟩
  have others : ∀ other ∈ before ++ after, other ≠ slot := fun other kept same =>
    (List.mem_append.mp kept).elim (fun inFront => apart.1 (same ▸ inFront)) fun behind => apart.2 (same ▸ behind)
  -- a chained slot other than the freed one holds an entry at another address
  have otherPayload : ∀ other ∈ before ++ after, ∀ held ∈ tracker.list.entryAt? other,
      (some held.payload != some payload) = true := by
    intro other kept held heldAt
    have chained : other ∈ order := by
      rw [split]
      rcases List.mem_append.mp kept with inFront | behind
      · exact List.mem_append_left _ inFront
      · exact List.mem_append_right _ (List.mem_cons_of_mem _ behind)
    simp only [bne_iff_ne, ne_eq, Option.some.injEq]
    intro same
    exact others other kept (sound.slot_eq_of_payload chained member
      (by rw [Option.mem_def.mp heldAt, Option.map_some, same]) payloadOf)
  have erased : order.erase slot = before ++ after := by
    rw [split, List.erase_append_right _ apart.1, List.erase_cons_head]
  have unchanged : (before ++ after).filterMap (tracker.list.remove slot payload).entryAt? =
      (before ++ after).filterMap tracker.list.entryAt? :=
    List.filterMap_congr fun other kept => Memlist.remove_entryAt? _ _ _ (others other kept)
  have headEntry : (slot :: after).filterMap tracker.list.entryAt? = entry :: after.filterMap tracker.list.entryAt? :=
    List.filterMap_cons_some entryAt
  have liveIs : ledger.live = before.filterMap tracker.list.entryAt? ++ entry :: after.filterMap tracker.list.entryAt? := by
    rw [← entries, split, List.filterMap_append, headEntry]
  have kept : ledger.live.filter (fun held => some held.payload != some payload) =
      (before ++ after).filterMap tracker.list.entryAt? := by
    rw [liveIs, List.filter_append, List.filter_cons_of_neg (by simp [entryPayload]), List.filterMap_append,
      List.filter_eq_self.mpr, List.filter_eq_self.mpr]
    · intro held heldMember
      obtain ⟨other, kept, heldAt⟩ := List.mem_filterMap.mp heldMember
      exact otherPayload other (List.mem_append_right _ kept) held heldAt
    · intro held heldMember
      obtain ⟨other, kept, heldAt⟩ := List.mem_filterMap.mp heldMember
      exact otherPayload other (List.mem_append_left _ kept) held heldAt
  have lengthIs : length = entry.length := by rw [fits, entryAt, Option.getD_some]
  have counted := holds.blocks
  have summed := holds.bytes
  rw [Ledger.bytes, liveIs] at summed
  rw [liveIs] at counted
  simp only [entryBytes_append, entryBytes_cons, List.length_append, List.length_cons] at counted summed
  have smaller : entryBytes ((before ++ after).filterMap tracker.list.entryAt?) ≤ ledger.bytes := by
    rw [Ledger.bytes, liveIs, List.filterMap_append]
    simp only [entryBytes_append, entryBytes_cons]
    omega
  refine ⟨⟨order.erase slot, sound.remove found, ?_⟩, ?_, ?_, ?_⟩
  · rw [erased, unchanged, Ledger.release, kept]
  · simp only [Ledger.release, kept, List.filterMap_append, List.length_append]
    omega
  · simp only [Ledger.release, Ledger.bytes, kept, List.filterMap_append, entryBytes_append]
    omega
  · simp only [Ledger.release, kept]
    rw [holds.peak]
    omega

end Tracker.Holds

namespace Ledger

variable {ledger : Ledger}

theorem bytes_enlist (entry : Entry) : (ledger.enlist entry).bytes = ledger.bytes + entry.length := by
  simp [enlist, bytes]

theorem peaked_enlist (entry : Entry) : (ledger.enlist entry).bytes ≤ (ledger.enlist entry).peak := by
  simp [enlist, bytes]

theorem peaked_release (address : Option Nat) : (ledger.release address).bytes ≤ (ledger.release address).peak := by
  simp [release, bytes]

theorem live_release {address : Option Nat} {entry : Entry} (member : entry ∈ (ledger.release address).live) :
    entry ∈ ledger.live :=
  (List.mem_filter.mp member).1

/-- A step that leaves the blocks as they were leaves a ledger whose peak covers its bytes as it
was. -/
theorem advance_of_live (peaked : ledger.bytes ≤ ledger.peak) {step : Step} {shown : Shown}
    (same : step.liveAfter shown ledger.live = ledger.live) : ledger.advance step shown = ledger := by
  rcases ledger with ⟨live, peak⟩
  simp only [advance, same, Ledger.mk.injEq, true_and]
  exact max_eq_left peaked

end Ledger

/-- A release answered with one of some refusals, none of them the kind mismatch, or stopped, has
freed nothing. -/
theorem Shown.frees_of_answers {conditions : List Condition} {result : Except Fault (Option MemError)}
    (answers : Answers conditions result) (keeps : Condition.kindMismatch ∉ conditions) :
    (Shown.ofRelease result).frees = false := by
  rcases answers with ⟨condition, member, rfl⟩ | ⟨fault, rfl⟩
  · exact frees_rejected fun same => keeps (same ▸ member)
  · rfl

/-! ### Steps that leave the table alone -/

namespace Allocator.Ledgered

variable {allocator next : Allocator} {ledger : Ledger}

/-- A change that keeps the source and the backend, and moves the next area of the space only up,
keeps the ledger. -/
theorem of_steady (ledgered : allocator.Ledgered ledger) (source : next.source = allocator.source)
    (switched : next.switched = allocator.switched) (backend : next.backend = allocator.backend)
    (grows : allocator.space.nextBase ≤ next.space.nextBase) :
    next.Ledgered ledger where
  fresh := by rw [source]; exact ledgered.fresh
  switched := by rw [switched]; exact ledgered.switched
  tracked := by rw [backend]; exact ledgered.tracked
  below := fun entry member => Nat.lt_of_lt_of_le (ledgered.below entry member) grows
  peaked := ledgered.peaked

/-- Reports change nothing the ledger follows. -/
theorem of_core (ledgered : allocator.Ledgered ledger) (kept : next.core = allocator.core) :
    next.Ledgered ledger := by
  have source : next.source = allocator.source := by
    have sameSource := congrArg Allocator.source kept
    exact sameSource
  have space : next.space = allocator.space := by
    have sameSpace := congrArg Allocator.space kept
    exact sameSpace
  have switched : next.switched = allocator.switched := by
    have sameSwitched := congrArg Allocator.switched kept
    exact sameSwitched
  exact ledgered.of_steady source switched (backend_eq_of_core kept) (by rw [space])

/-- A write anywhere keeps the ledger: the table does not look into memory. -/
theorem write (ledgered : allocator.Ledgered ledger) (address : Nat) (bytes : List UInt8) :
    { allocator with space := allocator.space.write address bytes }.Ledgered ledger :=
  ledgered.of_steady rfl rfl rfl (by rw [Space.nextBase_write])

/-- Clearing a released value or array keeps the ledger. -/
theorem clearedAfter (ledgered : allocator.Ledgered ledger) (address : Option Nat) (length : Nat)
    (result : Except Fault (Option MemError)) : (Allocator.clearedAfter address length result allocator).Ledgered ledger := by
  unfold Allocator.clearedAfter
  split
  · exact ledgered.write _ _
  · exact ledgered

/-- Looking an address up in the history of freed addresses keeps the ledger. -/
theorem lookedUp (ledgered : allocator.Ledgered ledger) {tracker : Tracker}
    (backend : allocator.backend = .guarded tracker) (payload : Nat) :
    (Allocator.lookedUp tracker payload allocator).Ledgered ledger := by
  unfold Allocator.lookedUp
  split
  · obtain ⟨current, currentIs, holds⟩ := ledgered.tracked
    rw [backend, Backend.guarded.injEq] at currentIs
    subst currentIs
    exact ⟨ledgered.fresh, ledgered.switched, ⟨_, rfl, holds.table, holds.blocks, holds.bytes, holds.peak⟩,
      ledgered.below,
      ledgered.peaked⟩
  · exact ledgered

/-- A step that leaves the blocks as they were keeps the ledger, advanced over the step. -/
theorem advance (ledgered : next.Ledgered ledger) {step : Step} {shown : Shown}
    (same : step.liveAfter shown ledger.live = ledger.live) : next.Ledgered (ledger.advance step shown) := by
  rw [Ledger.advance_of_live ledgered.peaked same]
  exact ledgered

/-! ### New blocks -/

/-- Entering a block in a region above every held block and below the next area keeps the ledger,
with the block added last. -/
theorem enrolled (ledgered : allocator.Ledgered ledger) {region : Region} {request : Request}
    (above : ∀ entry ∈ ledger.live, entry.payload < region.payload)
    (below : region.payload < allocator.space.nextBase) :
    (Allocator.enrolled region request allocator).Ledgered (ledger.enlist (request.entryAt region.payload)) := by
  obtain ⟨tracker, backend, holds⟩ := ledgered.tracked
  have nextBaseIs : (Allocator.enrolled region request allocator).space.nextBase = allocator.space.nextBase := by
    unfold Allocator.enrolled
    split <;> simp only [Allocator.stamped, Space.nextBase_write]
  refine ⟨?_, ?_, ?_, ?_, Ledger.peaked_enlist _⟩
  · unfold Allocator.enrolled
    split <;> exact ledgered.fresh
  · unfold Allocator.enrolled
    split <;> exact ledgered.switched
  · unfold Allocator.enrolled
    rw [backend]
    exact ⟨_, rfl, holds.insert (request.entryAt region.payload)
      (fun other member => Nat.ne_of_lt (above other member)) _⟩
  · intro entry member
    rw [nextBaseIs]
    simp only [Ledger.enlist, List.mem_append, List.mem_singleton] at member
    rcases member with held | rfl
    · exact ledgered.below entry held
    · exact below

/-- Where a source that hands out fresh addresses places bytes: at the next area of the space. -/
theorem granted_eq (ledgered : allocator.Ledgered ledger) (total : Nat) :
    granted total allocator = ((allocator.space.reserve total).1,
      { allocator with space := (allocator.space.reserve total).2 }) := by
  have fresh := ledgered.fresh
  unfold granted
  split
  · rename_i chunks source
    rw [source] at fresh
    cases fresh
  · rfl

/-! ### Releases -/

/-- Marking a block freed and giving its region back keeps the ledger: the heap takes nothing
back, and a mapping is only unmapped. -/
theorem retired (ledgered : allocator.Ledgered ledger) (header : Header) (payload : Nat) :
    (Allocator.retired header payload allocator).Ledgered ledger := by
  have marked : { allocator with space := marked header payload allocator.settings.debugMemset allocator.space }.Ledgered
      ledger := ledgered.of_steady rfl rfl rfl (by rw [nextBase_marked])
  unfold Allocator.retired
  split
  · exact marked
  · have fresh := ledgered.fresh
    unfold released
    dsimp only
    split
    · exact marked
    · rename_i chunks source
      rw [source] at fresh
      cases fresh
    · exact marked.of_steady rfl rfl rfl (le_of_eq rfl)

/-- Freeing the block in a slot whose header fits its entry keeps the ledger, without the blocks at
the address. -/
theorem trackedFree (ledgered : allocator.Ledgered ledger) {tracker : Tracker}
    (backend : allocator.backend = .guarded tracker) {slot payload : Nat}
    (found : tracker.list.slotOf? payload = some slot) {header : Header}
    (fits : header.fitsEntry slot ((tracker.list.entryAt? slot).getD default) = true) :
    (Allocator.trackedFree tracker slot header payload allocator).Ledgered (ledger.release (some payload)) := by
  obtain ⟨current, currentIs, holds⟩ := ledgered.tracked
  rw [backend, Backend.guarded.injEq] at currentIs
  subst currentIs
  have lengthFits : header.length.toNat = ((tracker.list.entryAt? slot).getD default).length := by
    simp only [Header.fitsEntry, Bool.and_eq_true, beq_iff_eq] at fits
    exact fits.2
  apply Ledgered.retired
  refine ⟨ledgered.fresh, ledgered.switched, ⟨_, rfl, holds.remove ledgered.peaked found _ lengthFits⟩, ?_,
    Ledger.peaked_release _⟩
  intro entry member
  exact ledgered.below entry (Ledger.live_release member)

/-! ### Allocations -/

/-- An allocation that refuses keeps the ledger as it was. -/
theorem refused (ledgered : allocator.Ledgered ledger) {call : Call} (still : call.releasesBlock = false)
    {result : Except Fault (Except MemError Block)} (refusedAll : ∀ block, result ≠ .ok (.ok block))
    (kept : next.core = allocator.core) :
    next.Ledgered (ledger.advance (.call call) (Shown.ofAllocation result)) := by
  have unhanded : (Shown.ofAllocation result).payload? = none := by
    rcases result with _ | _ | block
    · rfl
    · rfl
    · exact absurd rfl (refusedAll block)
  exact (ledgered.of_core kept).advance (by simp [Step.liveAfter, unhanded, still])

/-- An allocation that enters a block for the call keeps the ledger, with the call's entry added
last. -/
theorem handed (ledgered : allocator.Ledgered ledger) {call : Call} {region : Region} {request : Request}
    (entryIs : call.entryAt region.payload = request.entryAt region.payload)
    (above : ∀ entry ∈ ledger.live, entry.payload < region.payload)
    (below : region.payload < allocator.space.nextBase) (length : Int) :
    (Allocator.enrolled region request allocator).Ledgered
      (ledger.advance (.call call) (Shown.ofAllocation (.ok (.ok ⟨some region.payload, length⟩)))) := by
  have enlisted : ledger.advance (.call call) (Shown.ofAllocation (.ok (.ok ⟨some region.payload, length⟩))) =
      ledger.enlist (request.entryAt region.payload) := by
    simp only [Ledger.advance, Ledger.enlist, Step.liveAfter, Shown.ofAllocation, Shown.payload?, entryIs]
  rw [enlisted]
  exact ledgered.enrolled above below

/-- Filling a fresh payload keeps the ledger. -/
theorem prefilled (ledgered : allocator.Ledgered ledger) (region : Region) (request : Request) :
    (Allocator.prefilled region request allocator).Ledgered ledger := by
  unfold Allocator.prefilled
  split
  · exact ledgered.write _ _
  · exact ledgered

/-- A byte block for a call keeps the ledger: refused, nothing changes; granted, the block is
entered above every held block. -/
theorem allocateRaw_keeps (ledgered : allocator.Ledgered ledger) {call : Call} (still : call.releasesBlock = false)
    {size alignment : Int} {tag : String} {kind : BlockKind} {zeroed : Bool}
    (entryIs : ∀ payload, call.entryAt payload = (rawRequestOf size alignment tag kind zeroed).entryAt payload)
    {result : Except Fault (Except MemError Block)}
    (run : (allocateRaw size alignment tag kind zeroed).run.run allocator = (result, next)) :
    next.Ledgered (ledger.advance (.call call) (Shown.ofAllocation result)) := by
  rcases allocateRaw_cases run with ⟨refusedAll, kept⟩ | ⟨-, -, -, rfl, rfl⟩
  · exact ledgered.refused still refusedAll kept
  · -- the source reserves the bytes at the next area of the space
    set request := rawRequestOf size alignment tag kind zeroed
    have reserved := Space.nextBase_lt_reserve allocator.space (rawTotal request)
    have grantedIs := ledgered.granted_eq (rawTotal request)
    have reservedLedgered : ({ allocator with space := (allocator.space.reserve (rawTotal request)).2 } :
        Allocator).Ledgered ledger := ledgered.of_steady rfl rfl rfl (Nat.le_of_lt (lt_of_le_of_lt (Nat.le_add_right _ _) reserved))
    have filled : (Allocator.prefilled (rawPlacement request allocator) request
        (Allocator.granted (rawTotal request) allocator).2).Ledgered ledger := by
      rw [grantedIs]
      exact reservedLedgered.prefilled _ _
    -- the payload lies past the header at the base and before the end of the region
    have wordAligned : 8 ≤ request.alignment := le_max_right _ _
    have totalIs : rawTotal request = 32 + (request.alignment - 8) + request.length + 8 := rfl
    have payloadIs : (rawPlacement request allocator).payload =
        alignUp (allocator.space.nextBase + 32) request.alignment := by
      rw [rawPlacement, grantedIs]
      rfl
    have after := le_alignUp (allocator.space.nextBase + 32) request.alignment
    have before := alignUp_lt (allocator.space.nextBase + 32) request.alignment (by omega)
    refine filled.handed (entryIs _) (fun entry member => ?_) ?_ size
    · have := ledgered.below entry member
      omega
    · rw [nextBase_prefilled, grantedIs, payloadIs]
      dsimp only
      omega

/-- A frame for a call keeps the ledger: refused, nothing changes; granted, the frame is entered
at the next area of the space. -/
theorem allocateFrame_keeps (ledgered : allocator.Ledgered ledger) {call : Call} (still : call.releasesBlock = false)
    {element : ElementType} {count : Int} {tag : String}
    (entryIs : ∀ payload, call.entryAt payload = (frameRequestOf element count.toNat tag).entryAt payload)
    {result : Except Fault (Except MemError Block)}
    (run : (allocateFrame element count tag).run.run allocator = (result, next)) :
    next.Ledgered (ledger.advance (.call call) (Shown.ofAllocation result)) := by
  rcases allocateFrame_cases run with ⟨refusedAll, kept⟩ | ⟨-, -, rfl, rfl⟩
  · exact ledgered.refused still refusedAll kept
  · set region := frameRegionAt element count.toNat allocator.space.nextBase
    have reserved := Space.nextBase_lt_reserve allocator.space region.total
    have payloadIs : region.payload = allocator.space.nextBase + 32 := rfl
    have totalIs : region.total = 32 + roundLength (element.size * framePlaces element count.toNat) + 8 := rfl
    have reservedLedgered : ({ allocator with space := (allocator.space.reserve region.total).2 } : Allocator).Ledgered
        ledger := ledgered.of_steady rfl rfl rfl (Nat.le_of_lt (lt_of_le_of_lt (Nat.le_add_right _ _) reserved))
    refine reservedLedgered.handed (entryIs _) (fun entry member => ?_) ?_ _
    · have := ledgered.below entry member
      omega
    · dsimp only
      omega

/-- Constructing a value keeps the ledger: its frame is entered and the value written into it. -/
theorem construct_keeps (ledgered : allocator.Ledgered ledger) {element : ElementType} {value : List UInt8}
    {tag : String} {result : Except Fault (Except MemError Block)}
    (run : (Allocator.construct element value tag).run.run allocator = (result, next)) :
    next.Ledgered (ledger.advance (.call (.construct element value tag)) (Shown.ofAllocation result)) := by
  rcases construct_cases run with ⟨refusedAll, kept⟩ | ⟨framed, framing, rfl, rfl⟩
  · exact ledgered.refused rfl refusedAll kept
  · exact (ledgered.allocateFrame_keeps rfl (fun _ => rfl) framing).write _ _

/-- A new array keeps the ledger: no elements make no block, and otherwise its frame is entered. -/
theorem newArray_keeps (ledgered : allocator.Ledgered ledger) {element : ElementType} {count : Int}
    {tag : String} {result : Except Fault (Except MemError Block)}
    (run : (Allocator.newArray element count tag).run.run allocator = (result, next)) :
    next.Ledgered (ledger.advance (.call (.newArray element count tag)) (Shown.ofAllocation result)) := by
  by_cases empty : count = 0
  · subst empty
    rw [newArray_run_of_zero, Prod.mk.injEq] at run
    obtain ⟨rfl, rfl⟩ := run
    exact ledgered.advance rfl
  · rw [newArray_run_of_ne_zero tag allocator empty] at run
    exact ledgered.allocateFrame_keeps rfl (fun _ => rfl) run

/-- An array of bytes keeps the ledger: its size is checked, then it is a byte block. -/
theorem sized_keeps (ledgered : allocator.Ledgered ledger) {call : Call} (still : call.releasesBlock = false)
    {count size : Int} {tag : String} (allocate : Int → AllocM (Except MemError Block))
    (allocates : ∀ {result next}, (allocate (count * size)).run.run allocator = (result, next) →
      next.Ledgered (ledger.advance (.call call) (Shown.ofAllocation result)))
    {result : Except Fault (Except MemError Block)}
    (run : (do
        match ← arraySize count size tag with
        | .error error => return .error error
        | .ok total => allocate total : AllocM (Except MemError Block)).run.run allocator = (result, next)) :
    next.Ledgered (ledger.advance (.call call) (Shown.ofAllocation result)) := by
  rcases sizedAllocation_cases run with ⟨refusedAll, kept⟩ | ⟨-, -, -, allocated⟩
  · exact ledgered.refused still refusedAll kept
  · exact allocates allocated

/-! ### Releases -/

/-- A free keeps the ledger: without the blocks at the address it named once it freed, and as it
was when it refused or stopped. -/
theorem free_keeps (ledgered : allocator.Ledgered ledger) {block : Block} {kind : BlockKind}
    {result : Except Fault (Option MemError)} (run : (Allocator.free block kind).run.run allocator = (result, next)) :
    next.Ledgered (if (Shown.ofRelease result).frees then ledger.release block.address else ledger) := by
  rcases free_cases run with ⟨answers, kept⟩ | ⟨payload, middle, address, -, kept, backendRun⟩
  · rw [Shown.frees_of_answers answers (by decide), if_neg Bool.false_ne_true]
    exact ledgered.of_core kept
  obtain ⟨tracker, backend, -⟩ := ledgered.tracked
  have middleLedgered := ledgered.of_core kept
  have middleBackend : middle.backend = .guarded tracker := (backend_eq_of_core kept).trans backend
  rw [backend] at backendRun
  rcases freeTracked_cases backendRun with ⟨-, answers, looked⟩ | ⟨slot, found, damaged | torn | whole⟩
  · -- an address the table does not hold is only looked up in the history
    rw [Shown.frees_of_answers answers (by split <;> decide), if_neg Bool.false_ne_true]
    exact (middleLedgered.lookedUp middleBackend payload).of_core looked
  · obtain ⟨-, answers, kept⟩ := damaged
    rw [Shown.frees_of_answers answers (by decide), if_neg Bool.false_ne_true]
    exact middleLedgered.of_core kept
  · obtain ⟨-, -, answers, kept⟩ := torn
    rw [Shown.frees_of_answers answers (by decide), if_neg Bool.false_ne_true]
    exact middleLedgered.of_core kept
  · obtain ⟨fits, -, ⟨-, ⟨fault, rfl⟩, kept⟩ | ⟨rfl, freed, kept, rfl⟩⟩ := whole
    · exact middleLedgered.of_core kept
    · have frees : (Shown.ofRelease (.ok (if (Header.decode (middle.space.readOrZero (payload - headerSize)
          headerSize)).kind = kind.code then none else some (.of .kindMismatch)))).frees = true := by
        split <;> rfl
      rw [if_pos frees, address]
      exact (middleLedgered.of_core kept).trackedFree ((backend_eq_of_core kept).trans middleBackend) found fits

/-- Destroying a value keeps the ledger as its free does; clearing the value changes nothing the
ledger follows. -/
theorem destroy_keeps (ledgered : allocator.Ledgered ledger) {element : ElementType} {address : Option Nat}
    {result : Except Fault (Option MemError)} (run : (Allocator.destroy element address).run.run allocator = (result, next)) :
    next.Ledgered (if (Shown.ofRelease result).frees then ledger.release address else ledger) := by
  obtain ⟨middle, freed, kept, freeing, rfl⟩ := destroy_cases run
  exact ((ledgered.of_core kept).free_keeps freeing).clearedAfter _ _ _

/-- Freeing an array of some capacity keeps the ledger as its free does. -/
theorem freeArray_keeps (ledgered : allocator.Ledgered ledger) {element : ElementType} {address : Option Nat}
    {capacity : Nat} (nonempty : capacity ≠ 0) {result : Except Fault (Option MemError)}
    (run : (Allocator.freeArray element address capacity).run.run allocator = (result, next)) :
    next.Ledgered (if (Shown.ofRelease result).frees then ledger.release address else ledger) := by
  rcases freeArray_cases run with ⟨empty, -, -⟩ | ⟨-, freed, freeing, rfl⟩
  · exact absurd empty nonempty
  · exact (ledgered.free_keeps freeing).clearedAfter _ _ _

/-- Destroying an array of some capacity keeps the ledger as its free does. -/
theorem destroyArray_keeps (ledgered : allocator.Ledgered ledger) {element : ElementType} {address : Option Nat}
    {capacity : Nat} (nonempty : capacity ≠ 0) {result : Except Fault (Option MemError)}
    (run : (Allocator.destroyArray element address capacity).run.run allocator = (result, next)) :
    next.Ledgered (if (Shown.ofRelease result).frees then ledger.release address else ledger) := by
  obtain ⟨middle, kept, freeing⟩ := destroyArray_cases run
  exact (ledgered.of_core kept).freeArray_keeps nonempty freeing

/-! ### Steps -/

/-- A step that calls an allocation keeps the ledger as the allocation does. -/
theorem allocated {call : Call} {operation : AllocM (Except MemError Block)}
    (defined : call.run = operation >>= fun result => pure (Reply.block result))
    (keeps : (operation.run.run allocator).2.Ledgered
      (ledger.advance (.call call) (Shown.ofAllocation (operation.run.run allocator).1))) :
    ((Step.call call).run.run.run allocator).2.Ledgered
      (ledger.advance (.call call) (Shown.of ((Step.call call).run.run.run allocator).1)) := by
  rw [Step.run_call defined]
  dsimp only
  rw [Shown.of_map_block]
  exact keeps

/-- A step that calls a release of a block keeps the ledger as the release does. -/
theorem released {call : Call} (releases : call.releasesBlock = true) {operation : AllocM (Option MemError)}
    (defined : call.run = operation >>= fun result => pure (Reply.released result))
    (keeps : (operation.run.run allocator).2.Ledgered
      (if (Shown.ofRelease (operation.run.run allocator).1).frees then ledger.release call.named else ledger)) :
    ((Step.call call).run.run.run allocator).2.Ledgered
      (ledger.advance (.call call) (Shown.of ((Step.call call).run.run.run allocator).1)) := by
  rw [Step.run_call defined]
  dsimp only
  rw [Shown.of_map_released]
  by_cases frees : (Shown.ofRelease (operation.run.run allocator).1).frees = true
  · rw [if_pos frees] at keeps
    have freed : ledger.advance (.call call) (Shown.ofRelease (operation.run.run allocator).1) =
        ledger.release call.named := by
      simp only [Ledger.advance, Ledger.release, Step.liveAfter, Shown.payload_ofRelease, releases, frees,
        Bool.and_self, if_true]
    rw [freed]
    exact keeps
  · rw [if_neg frees] at keeps
    exact keeps.advance (by simp [Step.liveAfter, Shown.payload_ofRelease, frees])

/-- A call that shows no block and releases none, and leaves the source, the backend and the space
as they were, keeps the ledger. -/
theorem quiet (ledgered : allocator.Ledgered ledger) {call : Call} (still : call.releasesBlock = false)
    (unhanded : (Shown.of ((Step.call call).run.run.run allocator).1).payload? = none)
    (source : ((Step.call call).run.run.run allocator).2.source = allocator.source)
    (switched : ((Step.call call).run.run.run allocator).2.switched = allocator.switched)
    (backend : ((Step.call call).run.run.run allocator).2.backend = allocator.backend)
    (space : ((Step.call call).run.run.run allocator).2.space = allocator.space) :
    ((Step.call call).run.run.run allocator).2.Ledgered
      (ledger.advance (.call call) (Shown.of ((Step.call call).run.run.run allocator).1)) :=
  (ledgered.of_steady source switched backend (by rw [space])).advance
    (by simp [Step.liveAfter, unhanded, still])

end Allocator.Ledgered

/-- The leak check leaves the source, the backend and the space as they were. -/
theorem runLeakCheck_keeps_table (allocator : Allocator) :
    (runLeakCheck.run.run allocator).2.source = allocator.source ∧
      (runLeakCheck.run.run allocator).2.switched = allocator.switched ∧
      (runLeakCheck.run.run allocator).2.backend = allocator.backend ∧
      (runLeakCheck.run.run allocator).2.space = allocator.space := by
  by_cases ran : allocator.leakRan = true
  · rw [runLeakCheck_ran ran]
    exact ⟨rfl, rfl, rfl, rfl⟩
  · rw [runLeakCheck_first (by simpa using ran)]
    exact ⟨rfl, rfl, rfl, rfl⟩

/-- Closing leaves the source, the backend and the space as they were. -/
theorem close_keeps_table (allocator : Allocator) :
    (close.run.run allocator).2.source = allocator.source ∧ (close.run.run allocator).2.switched = allocator.switched ∧
      (close.run.run allocator).2.backend = allocator.backend ∧ (close.run.run allocator).2.space = allocator.space := by
  by_cases closed : allocator.closed = true
  · rw [close_closed closed]
    exact ⟨rfl, rfl, rfl, rfl⟩
  · rw [close_open (by simpa using closed)]
    dsimp only [withdrawn]
    split
    · exact runLeakCheck_keeps_table _
    · exact ⟨rfl, rfl, rfl, rfl⟩

/-- A check shows no block. -/
theorem Shown.payload_of_checked (outcome : Except Fault (Option MemError)) :
    (Shown.of (outcome.map fun result => some (Reply.checked result))).payload? = none := by
  rcases outcome with _ | _ | _ <;> rfl

namespace Allocator.Ledgered

variable {allocator : Allocator} {ledger : Ledger}

/-- One step keeps the ledger, advanced over the step. -/
theorem step (ledgered : allocator.Ledgered ledger) (step : Step) :
    (step.run.run.run allocator).2.Ledgered (ledger.advance step (Shown.of (step.run.run.run allocator).1)) := by
  cases step with
  | write address bytes => exact (ledgered.write address bytes).advance rfl
  | call call =>
    cases call with
    | malloc size tag => exact allocated rfl (ledgered.allocateRaw_keeps rfl (fun _ => rfl) (Prod.eta _).symm)
    | mallocAligned size alignment tag =>
      exact allocated rfl (ledgered.allocateRaw_keeps rfl (fun _ => rfl) (Prod.eta _).symm)
    | calloc size tag => exact allocated rfl (ledgered.allocateRaw_keeps rfl (fun _ => rfl) (Prod.eta _).symm)
    | mallocArray count size tag =>
      exact allocated rfl (ledgered.sized_keeps rfl (fun total => Allocator.malloc total tag)
        (fun allocating => ledgered.allocateRaw_keeps rfl (fun _ => rfl) allocating) (Prod.eta _).symm)
    | callocArray count size tag =>
      exact allocated rfl (ledgered.sized_keeps rfl (fun total => Allocator.calloc total tag)
        (fun allocating => ledgered.allocateRaw_keeps rfl (fun _ => rfl) allocating) (Prod.eta _).symm)
    | construct element value tag => exact allocated rfl (ledgered.construct_keeps (Prod.eta _).symm)
    | newArray element count tag => exact allocated rfl (ledgered.newArray_keeps (Prod.eta _).symm)
    | free block => exact released rfl rfl (ledgered.free_keeps (Prod.eta _).symm)
    | destroy element address => exact released rfl rfl (ledgered.destroy_keeps (Prod.eta _).symm)
    | freeArray element address capacity =>
      by_cases empty : capacity = 0
      · -- an array of no capacity is left alone
        subst empty
        exact ledgered.quiet rfl rfl rfl rfl rfl rfl
      · exact released (by simpa [Call.releasesBlock] using empty) rfl
          (ledgered.freeArray_keeps empty (Prod.eta _).symm)
    | destroyArray element address capacity =>
      by_cases empty : capacity = 0
      · -- nothing is finalized, and the array free of no capacity does nothing
        subst empty
        have ran : (Step.call (.destroyArray element address 0)).run.run.run allocator =
            (((Allocator.destroyArray element address 0).run.run allocator).1.map fun result =>
              some (Reply.released result), ((Allocator.destroyArray element address 0).run.run allocator).2) :=
          Step.run_call rfl allocator
        rcases running : (Allocator.destroyArray element address 0).run.run allocator with ⟨result, next⟩
        obtain ⟨middle, kept, freeing⟩ := destroyArray_cases running
        rcases freeArray_cases freeing with ⟨-, rfl, rfl⟩ | ⟨nonempty, -⟩
        · rw [running] at ran
          rw [ran]
          exact (ledgered.of_core kept).advance rfl
        · exact absurd rfl nonempty
      · exact released (by simpa [Call.releasesBlock] using empty) rfl
          (ledgered.destroyArray_keeps empty (Prod.eta _).symm)
    | keepAlive item => exact ledgered.quiet rfl rfl rfl rfl rfl rfl
    | runCheck =>
      have ran : (Step.call .runCheck).run.run.run allocator =
          ((runLeakCheck.run.run allocator).1.map fun result => some (Reply.checked result),
            (runLeakCheck.run.run allocator).2) := Step.run_call rfl allocator
      obtain ⟨source, switched, backend, space⟩ := runLeakCheck_keeps_table allocator
      refine ledgered.quiet rfl ?_ ?_ ?_ ?_ ?_ <;> rw [ran]
      · exact Shown.payload_of_checked _
      · exact source
      · exact switched
      · exact backend
      · exact space
    | close =>
      have ran : (Step.call .close).run.run.run allocator =
          ((close.run.run allocator).1.map fun result => some (Reply.checked result),
            (close.run.run allocator).2) := Step.run_call rfl allocator
      obtain ⟨source, switched, backend, space⟩ := close_keeps_table allocator
      refine ledgered.quiet rfl ?_ ?_ ?_ ?_ ?_ <;> rw [ran]
      · exact Shown.payload_of_checked _
      · exact source
      · exact switched
      · exact backend
      · exact space

/-- Every run keeps the ledger, advanced along the run. -/
theorem along (ledgered : allocator.Ledgered ledger) (script : List Step) :
    (runScript script allocator).Ledgered (ledgerAlong script allocator ledger) := by
  induction script generalizing allocator ledger with
  | nil => exact ledgered
  | cons step rest inductionHypothesis => exact inductionHypothesis (ledgered.step step)

/-- Right after the switch to the tracking backend, over a source of fresh addresses, the table
holds the empty ledger. -/
theorem switched_empty (fresh : allocator.source.fresh = true) : (switchedToGuarded allocator).Ledgered ⟨[], 0⟩ where
  fresh := fresh
  switched := rfl
  tracked := ⟨_, rfl, ⟨[], Memlist.sound_empty, rfl⟩, rfl, rfl, rfl⟩
  below := fun _ absent => nomatch absent
  peaked := le_refl 0

end Allocator.Ledgered

/-! ### The table along every run -/

/-- The tracking backend's table over every run. Switching an allocator over the heap or a mapping
per block to the tracking backend succeeds only when it has not switched before and no block is in
use. Run any script after the switch: any calls with any handles, and writes anywhere, over
headers and tails too. Afterwards the table is sound: following the links forward from the head
visits each chained slot once and stops at the tail, each link back undoes the link forward, the
chained slots and the free stack number every slot once, and the address index maps exactly the
chained payloads to their slots. The chain holds the blocks the script holds by its ledger, oldest
first, and the listing lists them; the counters are the chain's length and its entries' bytes; and
a second switch is refused. -/
theorem tracked_table_follows_ledger {allocator switched : Allocator} (fresh : allocator.source.fresh = true)
    (installed : useGuarded.run.run allocator = (.ok none, switched)) (script : List Step) :
    allocator.switched = false ∧ allocator.usage.blocks = 0 ∧
      ∃ tracker order, (runScript script switched).backend = .guarded tracker ∧
        tracker.list.Sound order ∧ tracker.list.chain = order ∧
        tracker.list.entries = (ledgerAlong script switched ⟨[], 0⟩).live ∧
        tracker.blocks = tracker.list.chain.length ∧ tracker.bytes = entryBytes tracker.list.entries ∧
        (runScript script switched).memlist = some ((ledgerAlong script switched ⟨[], 0⟩).live.map Entry.info) ∧
        useGuarded.run.run (runScript script switched) =
          (.ok (some (.of .backendFixed)), runScript script switched) := by
  rcases useGuarded_cases installed with ⟨-, refused, -⟩ | ⟨-, -, refused, -⟩ | ⟨notSwitched, empty, -, rfl⟩
  · cases refused
  · cases refused
  refine ⟨notSwitched, empty, ?_⟩
  have ledgered := (Allocator.Ledgered.switched_empty fresh).along script
  obtain ⟨tracker, backend, holds⟩ := ledgered.tracked
  obtain ⟨order, sound, entries⟩ := holds.table
  have entriesIs : tracker.list.entries = (ledgerAlong script (switchedToGuarded allocator) ⟨[], 0⟩).live :=
    sound.entries_eq.trans entries
  refine ⟨tracker, order, backend, sound, sound.chain_eq, entriesIs, ?_, ?_, ?_, ?_⟩
  · -- every chained slot holds an entry, so the chain is as long as the ledger
    rw [holds.blocks, ← entries, sound.chain_eq]
    exact List.filterMap_length_eq_length.mpr fun slot member => sound.entryAt?_isSome member
  · rw [holds.bytes, Ledger.bytes, entriesIs]
  · unfold memlist
    rw [backend]
    dsimp only
    rw [entriesIs]
    rfl
  · -- the switch is made once: every step keeps the allocator switched
    rcases useGuarded_cases (Prod.eta (useGuarded.run.run (runScript script (switchedToGuarded allocator)))).symm with
      ⟨-, answer, stays⟩ | ⟨unswitched, -⟩ | ⟨unswitched, -⟩
    · rw [← Prod.eta (useGuarded.run.run _), answer, stays]
    · rw [ledgered.switched] at unswitched
      cases unswitched
    · rw [ledgered.switched] at unswitched
      cases unswitched

/-- The empty allocator over the heap switches to the tracking backend, and a script that allocates,
writes over the block's header and frees it runs on it. -/
theorem tracked_table_follows_ledger_header_overwrite :
    let script : List Step := [.call (.malloc 8 "a"), .write (firstBase + headerSize - 8) [0, 0, 0, 0],
      .call (.free ⟨some (firstBase + headerSize), 8⟩), .call (.malloc 16 "b")]
    let switched := switchedToGuarded {}
    (({} : Allocator).source.fresh = true ∧ useGuarded.run.run ({} : Allocator) = (.ok none, switched)) ∧
      (({} : Allocator).switched = false ∧ ({} : Allocator).usage.blocks = 0 ∧
        ∃ tracker order, (runScript script switched).backend = .guarded tracker ∧
          tracker.list.Sound order ∧ tracker.list.chain = order ∧
          tracker.list.entries = (ledgerAlong script switched ⟨[], 0⟩).live ∧
          tracker.blocks = tracker.list.chain.length ∧ tracker.bytes = entryBytes tracker.list.entries ∧
          (runScript script switched).memlist = some ((ledgerAlong script switched ⟨[], 0⟩).live.map Entry.info) ∧
          useGuarded.run.run (runScript script switched) =
            (.ok (some (.of .backendFixed)), runScript script switched)) :=
  ⟨⟨rfl, rfl⟩, tracked_table_follows_ledger rfl rfl _⟩

end HeapKit.Memory
