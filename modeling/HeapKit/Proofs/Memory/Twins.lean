import Mathlib
import HeapKit.Proofs.Memory.Operations
import HeapKit.Proofs.Memory.SlotTable
import HeapKit.Proofs.Memory.Codec
import HeapKit.Proofs.Memory.Framing
import HeapKit.Proofs.Memory.Lockstep

/-!
# Twin allocators

Run one script on an allocator with the counting backend and on one with the tracking backend,
both over the heap. They place every block at the same address and differ only in how they keep
their books: the counting backend has three counters and trusts the header, the tracking
backend keeps a table of slots, writes the slot into the header, and remembers freed addresses.

`Twins left right placed` ties the two states together. `placed` lists the blocks made so far,
live or freed, each with its region, its entry and the slot the tracking backend gave it. Both
states have the same settings, reporter and counters. In both, each block's header reads as
stamped, with its slot on the tracking side, and marked freed once the block is freed; its tail
reads the matching tag. The table holds exactly the live blocks. While no more blocks were
freed than the history has room for, the history remembers exactly the freed addresses. The
blocks' regions lie apart and below the next base.
-/

namespace HeapKit.Memory

open HeapKit.Endian

namespace Allocator

/-- The counters of the counting backend, or zeros when it is not in use. -/
def counters (allocator : Allocator) : Counters :=
  match allocator.backend with
  | .lockfree counters => counters
  | .guarded _ => {}

/-- The state of the tracking backend, or an empty one when it is not in use. -/
def tracker (allocator : Allocator) : Tracker :=
  match allocator.backend with
  | .guarded tracker => tracker
  | .lockfree _ => {}

/-- Freeing a block fills its payload or leaves it, then marks its header and its tail. -/
theorem marked_eq (header : Header) (payload : Nat) (memset : Bool) (space : Space) :
    ∃ filled : Space, (filled = space ∨ filled = space.write payload (List.replicate header.length.toNat 0xFF)) ∧
      marked header payload memset space =
        (filled.write (payload - headerSize) header.markFreed.encode).write (payload + header.tailOffset)
          (bytesLE 4 freedTag.toNat) := by
  unfold marked
  split
  · exact ⟨_, .inr rfl, rfl⟩
  · exact ⟨_, .inl rfl, rfl⟩

theorem nextBase_marked (header : Header) (payload : Nat) (memset : Bool) (space : Space) :
    (marked header payload memset space).nextBase = space.nextBase := by
  obtain ⟨filled, either, marked⟩ := marked_eq header payload memset space
  rw [marked, Space.nextBase_write, Space.nextBase_write]
  rcases either with rfl | rfl
  · rfl
  · exact Space.nextBase_write _ _ _

/-- Over the heap, a freed block's region stays where it is. -/
theorem retired_of_heap {allocator : Allocator} (heap : allocator.source = .heap) (backend : Backend)
    (header : Header) (payload : Nat) :
    retired header payload { allocator with backend } =
      { allocator with backend, space := marked header payload allocator.settings.debugMemset allocator.space } := by
  unfold retired released
  split
  · rfl
  · simp only [heap]

@[simp] theorem counters_mk (settings : Settings) (reporter : Reporter) (space : Space) (source : Source)
    (counters : Counters) (switched leakRan closed : Bool) (detector : Option (Array KeptAlive))
    (metrics : Option Metrics) (journal : Journal) :
    (Allocator.mk settings reporter space source (.lockfree counters) switched leakRan closed detector metrics
      journal).counters = counters := rfl

@[simp] theorem tracker_mk (settings : Settings) (reporter : Reporter) (space : Space) (source : Source)
    (tracker : Tracker) (switched leakRan closed : Bool) (detector : Option (Array KeptAlive))
    (metrics : Option Metrics) (journal : Journal) :
    (Allocator.mk settings reporter space source (.guarded tracker) switched leakRan closed detector metrics
      journal).tracker = tracker := rfl

end Allocator

theorem Space.Apart.marked {space : Space} (apart : space.Apart) (header : Header) (payload : Nat)
    (memset : Bool) : (Allocator.marked header payload memset space).Apart := by
  obtain ⟨filled, either, marked⟩ := Allocator.marked_eq header payload memset space
  rw [marked]
  rcases either with rfl | rfl
  · exact (apart.write _ _).write _ _
  · exact ((apart.write _ _).write _ _).write _ _

/-- How many addresses the tracking backend's history may remember. -/
def historyCapacity (settings : Settings) : Nat :=
  if 0 < settings.freedHistory then settings.freedHistory.toNat else 0

/-- A block both allocators placed: its region, its payload's entry, the header the counting
backend stamped, the slot the tracking backend keeps it in, and whether it is still live. -/
structure Placed where
  base : Nat
  total : Nat
  entry : Entry
  header : Header
  slot : Nat
  live : Bool

namespace Placed

/-- The payload address. -/
def payload (block : Placed) : Nat := block.entry.payload

/-- The header the tracking backend stamped: the same, with the block's slot. -/
def trackedHeader (block : Placed) : Header := { block.header with slot := (block.slot + 1).toUInt32 }

@[simp] theorem trackedHeader_length (block : Placed) : block.trackedHeader.length = block.header.length := rfl

@[simp] theorem trackedHeader_kind (block : Placed) : block.trackedHeader.kind = block.header.kind := rfl

@[simp] theorem trackedHeader_tailOffset (block : Placed) :
    block.trackedHeader.tailOffset = block.header.tailOffset := by
  unfold trackedHeader Header.tailOffset Header.isFrame
  rfl

@[simp] theorem trackedHeader_isValid (block : Placed) : block.trackedHeader.isValid = block.header.isValid := by
  unfold trackedHeader Header.isValid Header.isLive
  rfl

/-- A stamped header as it reads now: marked freed once the block is freed. -/
def current (block : Placed) (header : Header) : Header := if block.live then header else header.markFreed

/-- The tag of the tail as it reads now. -/
def tailTag (block : Placed) : UInt32 := if block.live then liveTailTag else freedTag

/-- A block laid out as the allocator lays blocks out: the header inside the region in front
of the payload, the tail inside it behind, an aligned payload, and a valid header whose length
is the entry's. -/
structure Laid (block : Placed) : Prop where
  headerInside : block.base + headerSize ≤ block.payload
  tailInside : block.payload + block.header.tailOffset + 4 ≤ block.base + block.total
  aligned : block.payload % minimumAlignment = 0
  valid : block.header.isValid = true
  untracked : block.header.slot = 0
  length : block.header.length.toNat = block.entry.length
  within : block.entry.length ≤ block.header.tailOffset

/-- A space holds a block's region below its next base, and the block's header and tail read
as they are now. -/
structure Stored (block : Placed) (space : Space) (header : Header) : Prop where
  held : space.holds block.base block.total = true
  below : block.base + block.total ≤ space.nextBase
  headerBytes : space.readOrZero (block.payload - headerSize) headerSize = (block.current header).encode
  tailBytes : space.readOrZero (block.payload + block.header.tailOffset) 4 = bytesLE 4 block.tailTag.toNat

/-- Two blocks' regions share no byte. -/
def Apart (first second : Placed) : Prop :=
  first.base + first.total ≤ second.base ∨ second.base + second.total ≤ first.base

instance : Std.Symm Apart := ⟨fun _ _ apart => Or.symm apart⟩

/-- A run of bytes stays off a block's header and tail. -/
def Spares (block : Placed) (start length : Nat) : Prop :=
  (start + length ≤ block.payload - headerSize ∨ block.payload ≤ start) ∧
    (start + length ≤ block.payload + block.header.tailOffset ∨
      block.payload + block.header.tailOffset + 4 ≤ start)

/-- The block after it is freed. -/
def freed (block : Placed) : Placed := { block with live := false }

/-- The block a region and a request make, in a slot of the tracking backend. -/
def ofRegion (region : Region) (request : Request) (slot : Nat) : Placed where
  base := region.base
  total := region.total
  entry := { payload := region.payload, tag := request.tag, length := request.length, kind := request.kind,
             alignment := request.alignment }
  header := Allocator.stampHeader region request 0
  slot := slot
  live := true

theorem ofRegion_trackedHeader (region : Region) (request : Request) (slot : Nat) :
    (ofRegion region request slot).trackedHeader = Allocator.stampHeader region request (slot + 1) := rfl

theorem stampHeader_tailOffset (region : Region) (request : Request) (slot : Nat) :
    (Allocator.stampHeader region request slot).tailOffset = (Allocator.stampHeader region request 0).tailOffset := by
  unfold Allocator.stampHeader Header.tailOffset Header.isFrame
  rfl

/-- The block is laid out whatever its slot. -/
theorem Laid.ofRegion {region : Region} {request : Request} (laid : (ofRegion region request 0).Laid)
    (other : Nat) : (ofRegion region request other).Laid :=
  ⟨laid.headerInside, laid.tailInside, laid.aligned, laid.valid, laid.untracked, laid.length, laid.within⟩

/-! ### Headers and tails under writes -/

section Frames

variable {block : Placed} {space : Space} {header : Header}

theorem Laid.headerSize_le (laid : block.Laid) : headerSize ≤ block.payload := by
  have := laid.headerInside
  omega

theorem Stored.headerHeld (laid : block.Laid) (stored : block.Stored space header) :
    space.holds (block.payload - headerSize) headerSize = true := by
  have := laid.headerInside
  have := laid.tailInside
  exact Space.holds_of_within stored.held (by omega) (by omega)

theorem Stored.tailHeld (laid : block.Laid) (stored : block.Stored space header) :
    space.holds (block.payload + block.header.tailOffset) 4 = true := by
  have := laid.headerInside
  exact Space.holds_of_within stored.held (by omega) laid.tailInside

/-- A write that stays off a block's header and tail keeps it stored. -/
theorem Stored.write (apart : space.Apart) (laid : block.Laid) (stored : block.Stored space header)
    {start : Nat} {bytes : List UInt8} (spares : block.Spares start bytes.length) :
    block.Stored (space.write start bytes) header := by
  obtain ⟨offHeader, offTail⟩ := spares
  have := laid.headerSize_le
  refine ⟨by rw [Space.holds_write]; exact stored.held, by rw [Space.nextBase_write]; exact stored.below,
    ?_, ?_⟩
  · rw [apart.readOrZero_write_of_apart (stored.headerHeld laid) (by omega)]
    exact stored.headerBytes
  · rw [apart.readOrZero_write_of_apart (stored.tailHeld laid) offTail]
    exact stored.tailBytes

/-- A reservation keeps every block stored. -/
theorem Stored.reserve (apart : space.Apart) (laid : block.Laid) (stored : block.Stored space header)
    (size : Nat) : block.Stored (space.reserve size).2 header := by
  refine ⟨Space.holds_reserve_of_holds size stored.held, ?_, ?_, ?_⟩
  · have := Space.nextBase_lt_reserve space size
    have := stored.below
    omega
  · rw [apart.readOrZero_reserve (stored.headerHeld laid)]
    exact stored.headerBytes
  · rw [apart.readOrZero_reserve (stored.tailHeld laid)]
    exact stored.tailBytes

/-- A run inside the region of a block apart from this one stays off its header and tail. -/
theorem Laid.spares_of_apart (laid : block.Laid) {other : Placed} (disjoint : block.Apart other)
    {start length : Nat} (after : other.base ≤ start) (before : start + length ≤ other.base + other.total) :
    block.Spares start length := by
  have := laid.headerInside
  have := laid.tailInside
  unfold Apart at disjoint
  unfold Spares
  omega

/-- A run inside a block's payload stays off its header and tail. -/
theorem spares_of_payload {start length : Nat} (after : block.payload ≤ start)
    (before : start + length ≤ block.payload + block.header.tailOffset) : block.Spares start length := by
  unfold Spares
  omega

/-- A run past the end of a block's region stays off its header and tail. -/
theorem Laid.spares_of_le (laid : block.Laid) {start length : Nat} (above : block.base + block.total ≤ start) :
    block.Spares start length := by
  have := laid.tailInside
  unfold Spares
  omega

/-- Stamping a region that starts past a block's end keeps the block stored. -/
theorem Stored.stamped (apart : space.Apart) (laid : block.Laid) (stored : block.Stored space header)
    {region : Region} (request : Request) (slot : Nat) (headerAbove : region.base + headerSize ≤ region.payload)
    (above : block.base + block.total ≤ region.base) :
    block.Stored (Allocator.stamped region request slot space) header :=
  (stored.write apart laid (laid.spares_of_le (by omega))).write (apart.write _ _) laid
    (laid.spares_of_le (by omega))

/-- Writing a block's header as it reads now and then its tail tag stores the block. -/
theorem stored_of_writes (apart : space.Apart) (laid : block.Laid)
    (held : space.holds block.base block.total = true) (below : block.base + block.total ≤ space.nextBase)
    (header : Header) :
    block.Stored ((space.write (block.payload - headerSize) (block.current header).encode).write
      (block.payload + block.header.tailOffset) (bytesLE 4 block.tailTag.toNat)) header := by
  have headerHeld : space.holds (block.payload - headerSize) headerSize = true := by
    have := laid.headerInside
    have := laid.tailInside
    exact Space.holds_of_within held (by omega) (by omega)
  have tailHeld : space.holds (block.payload + block.header.tailOffset) 4 = true := by
    have := laid.headerInside
    exact Space.holds_of_within held (by omega) laid.tailInside
  have written := apart.write (block.payload - headerSize) (block.current header).encode
  have := laid.headerSize_le
  refine ⟨by rw [Space.holds_write, Space.holds_write]; exact held,
    by rw [Space.nextBase_write, Space.nextBase_write]; exact below, ?_, ?_⟩
  · rw [written.readOrZero_write_of_apart (by rw [Space.holds_write]; exact headerHeld) (by omega)]
    have readBack : (space.write (block.payload - headerSize) (block.current header).encode).readOrZero
        (block.payload - headerSize) (block.current header).encode.length = (block.current header).encode :=
      apart.readOrZero_write_self (by rw [Header.length_encode]; exact headerHeld)
    rw [Header.length_encode] at readBack
    exact readBack
  · have readBack := written.readOrZero_write_self
      (show _ = true by rw [length_bytesLE 4 block.tailTag.toNat, Space.holds_write]; exact tailHeld)
    rw [length_bytesLE] at readBack
    exact readBack

theorem Laid.freed (laid : block.Laid) : block.freed.Laid :=
  ⟨laid.headerInside, laid.tailInside, laid.aligned, laid.valid, laid.untracked, laid.length, laid.within⟩

/-- Two blocks apart have different payload addresses. -/
theorem Laid.payload_ne (laid : block.Laid) {other : Placed} (otherLaid : other.Laid)
    (disjoint : block.Apart other) : block.payload ≠ other.payload := by
  have := laid.headerInside
  have := laid.tailInside
  have := otherLaid.headerInside
  have := otherLaid.tailInside
  unfold Apart at disjoint
  omega

/-- A block apart from a freed one stays stored: freeing writes only inside the freed block's
region. -/
theorem Stored.marked_of_apart (apart : space.Apart) (laid : block.Laid) (stored : block.Stored space header)
    {other : Placed} (otherLaid : other.Laid) (disjoint : block.Apart other) {freedHeader : Header}
    (sameTail : freedHeader.tailOffset = other.header.tailOffset)
    (sameLength : freedHeader.length.toNat = other.entry.length) (memset : Bool) :
    block.Stored (Allocator.marked freedHeader other.payload memset space) header := by
  have := otherLaid.headerInside
  have := otherLaid.tailInside
  have := otherLaid.within
  have headerSize_eq : headerSize = 32 := rfl
  have inside : ∀ (current : Space) (start : Nat) (bytes : List UInt8), current.Apart →
      block.Stored current header → other.base ≤ start → start + bytes.length ≤ other.base + other.total →
      (current.write start bytes).Apart ∧ block.Stored (current.write start bytes) header :=
    fun _ _ _ currentApart currentStored after before =>
      ⟨currentApart.write _ _, currentStored.write currentApart laid (laid.spares_of_apart disjoint after before)⟩
  obtain ⟨filled, either, marked⟩ := Allocator.marked_eq freedHeader other.payload memset space
  have filledSpace : filled.Apart ∧ block.Stored filled header := by
    rcases either with rfl | rfl
    · exact ⟨apart, stored⟩
    · exact inside _ _ _ apart stored (by omega) (by rw [List.length_replicate]; omega)
  obtain ⟨headerApart, headerStored⟩ := inside filled (other.payload - headerSize) freedHeader.markFreed.encode
    filledSpace.1 filledSpace.2 (by omega) (by rw [Header.length_encode]; omega)
  rw [marked]
  exact (inside _ _ _ headerApart headerStored (by omega) (by rw [length_bytesLE]; omega)).2

/-- A freed block is stored as freed. -/
theorem Stored.marked_self (apart : space.Apart) (laid : block.Laid) (stored : block.Stored space header)
    (sameTail : header.tailOffset = block.header.tailOffset) (memset : Bool) :
    block.freed.Stored (Allocator.marked header block.payload memset space) header := by
  obtain ⟨filled, either, marked⟩ := Allocator.marked_eq header block.payload memset space
  have filledSpace : filled.Apart ∧ filled.holds block.base block.total = true ∧
      filled.nextBase = space.nextBase := by
    rcases either with rfl | rfl
    · exact ⟨apart, stored.held, rfl⟩
    · exact ⟨apart.write _ _, by rw [Space.holds_write]; exact stored.held, Space.nextBase_write _ _ _⟩
  rw [marked, sameTail]
  exact stored_of_writes filledSpace.1 laid.freed filledSpace.2.1 (filledSpace.2.2 ▸ stored.below) header

end Frames

end Placed

/-- The payload addresses of the freed blocks. -/
def freedPayloads (placed : List Placed) : List Nat :=
  (placed.filter fun block => !block.live).map Placed.payload

/-- The slots of the live blocks, oldest first. -/
def liveSlots (placed : List Placed) : List Nat :=
  (placed.filter Placed.live).map Placed.slot

/-- The bytes of the live blocks. -/
def liveBytes (placed : List Placed) : Nat :=
  ((placed.filter Placed.live).map fun block => block.entry.length).sum

/-- The blocks after the one with a payload address is freed. -/
def freeAt (payload : Nat) (placed : List Placed) : List Placed :=
  placed.map fun block => if block.payload = payload then block.freed else block

/-- The tracking backend's history: as large as the settings ask, and, while no more blocks were
freed than it has room for, remembering exactly the freed addresses. -/
def Remembers (settings : Settings) (history : Option FreedHistory) (placed : List Placed) : Prop :=
  ∃ recent : List (Nat × String),
    history = (if 0 < settings.freedHistory then some ⟨settings.freedHistory.toNat, recent⟩ else none) ∧
      ((freedPayloads placed).length ≤ historyCapacity settings →
        (recent.map Prod.fst).Perm (freedPayloads placed))

/-! ### Freeing one of the blocks -/

section Lists

variable {before after : List Placed} {block : Placed}

theorem mem_freed_iff {other : Placed} :
    other ∈ before ++ block.freed :: after ↔ other ∈ before ∨ other = block.freed ∨ other ∈ after := by
  simp

theorem payloads_freed :
    (before ++ block.freed :: after).map Placed.payload = (before ++ block :: after).map Placed.payload := by
  simp [Placed.freed, Placed.payload]

theorem liveSlots_freed (live : block.live = true) (nodup : (liveSlots (before ++ block :: after)).Nodup) :
    liveSlots (before ++ block.freed :: after) = (liveSlots (before ++ block :: after)).erase block.slot := by
  simp only [liveSlots, List.filter_append, List.filter_cons, live, Placed.freed, if_true,
    Bool.false_eq_true, if_false, List.map_append, List.map_cons] at nodup ⊢
  have fresh := (List.nodup_cons.mp (List.nodup_middle.mp nodup)).1
  rw [List.erase_append_right _ fun member => fresh (List.mem_append_left _ member), List.erase_cons_head]

theorem liveBytes_freed (live : block.live = true) :
    liveBytes (before ++ block.freed :: after) + block.entry.length = liveBytes (before ++ block :: after) := by
  simp only [liveBytes, List.filter_append, List.filter_cons, live, Placed.freed, if_true,
    Bool.false_eq_true, if_false, List.map_append, List.map_cons, List.sum_append, List.sum_cons]
  omega

theorem freedPayloads_freed (live : block.live = true) :
    (freedPayloads (before ++ block.freed :: after)).Perm (block.payload :: freedPayloads (before ++ block :: after)) := by
  simp only [freedPayloads, List.filter_append, List.filter_cons, live, Placed.freed, Bool.not_false,
    Bool.not_true, if_true, Bool.false_eq_true, if_false, List.map_append, List.map_cons]
  exact List.perm_middle

theorem pairwise_freed (pairwise : (before ++ block :: after).Pairwise Placed.Apart) :
    (before ++ block.freed :: after).Pairwise Placed.Apart := by
  simp only [List.pairwise_append, List.pairwise_cons, List.mem_cons] at pairwise ⊢
  obtain ⟨front, ⟨blockBefore, back⟩, across⟩ := pairwise
  refine ⟨front, ⟨blockBefore, back⟩, ?_⟩
  rintro first firstMember second (rfl | secondMember)
  · exact across first firstMember block (.inl rfl)
  · exact across first firstMember second (.inr secondMember)

end Lists

/-! ### The history of freed addresses -/

section History

variable {settings : Settings} {history : Option FreedHistory}

/-- Adding an address the history does not hold, with room to spare, puts it in front. -/
theorem FreedHistory.remove_recent_of_fresh {capacity : Nat} {recent : List (Nat × String)} {payload : Nat}
    (fresh : payload ∉ recent.map Prod.fst) : (FreedHistory.remove payload ⟨capacity, recent⟩).recent = recent := by
  unfold FreedHistory.remove
  apply List.filter_eq_self.mpr
  rintro ⟨other, otherTag⟩ member
  have differs : other ≠ payload := fun same => fresh (List.mem_map.mpr ⟨_, member, same⟩)
  simpa using differs

/-- Adding an address the history does not hold, with room to spare, puts it in front. -/
theorem FreedHistory.add_recent_of_fresh {capacity : Nat} {recent : List (Nat × String)} {payload : Nat}
    (tag : String) (fresh : payload ∉ recent.map Prod.fst) (room : recent.length + 1 ≤ capacity) :
    (FreedHistory.add payload tag ⟨capacity, recent⟩).recent = (payload, tag) :: recent := by
  simp only [FreedHistory.add, FreedHistory.remove_recent_of_fresh fresh]
  exact List.take_of_length_le (by simpa using room)

/-- A freed block's address joins the history. -/
theorem Remembers.free {before after : List Placed} {block : Placed}
    (remembers : Remembers settings history (before ++ block :: after)) (live : block.live = true)
    (fresh : block.payload ∉ freedPayloads (before ++ block :: after)) (tag : String) :
    Remembers settings (history.map (FreedHistory.add block.payload tag)) (before ++ block.freed :: after) := by
  obtain ⟨recent, rfl, exact⟩ := remembers
  have grows : (freedPayloads (before ++ block.freed :: after)).Perm
      (block.payload :: freedPayloads (before ++ block :: after)) := freedPayloads_freed live
  have longer := grows.length_eq
  rw [List.length_cons] at longer
  by_cases positive : 0 < settings.freedHistory
  · rw [if_pos positive, Option.map_some]
    refine ⟨(FreedHistory.add block.payload tag ⟨settings.freedHistory.toNat, recent⟩).recent, by
      rw [if_pos positive]; rfl, fun fits => ?_⟩
    have older := exact (by omega)
    have notRecent : block.payload ∉ recent.map Prod.fst := fun member => fresh (older.subset member)
    rw [FreedHistory.add_recent_of_fresh tag notRecent (by
      have := older.length_eq
      simp only [historyCapacity, if_pos positive, List.length_map] at this fits
      omega), List.map_cons]
    exact (older.cons _).trans grows.symm
  · rw [if_neg positive, Option.map_none]
    refine ⟨recent, by rw [if_neg positive], fun fits => ?_⟩
    simp only [historyCapacity, if_neg positive] at fits
    omega

/-- Looking up a remembered address makes it the most recent, keeping what is remembered. -/
theorem FreedHistory.lookup_recent {capacity : Nat} {recent : List (Nat × String)} {payload : Nat}
    (nodup : (recent.map Prod.fst).Nodup) (member : payload ∈ recent.map Prod.fst)
    (room : recent.length ≤ capacity) :
    ∃ tag later, FreedHistory.lookup payload ⟨capacity, recent⟩ = (some tag, ⟨capacity, later⟩) ∧
      (later.map Prod.fst).Perm (recent.map Prod.fst) := by
  obtain ⟨entry, entryMember, entryPayload⟩ := List.mem_map.mp member
  have erased : ((FreedHistory.remove payload ⟨capacity, recent⟩).recent).map Prod.fst =
      (recent.map Prod.fst).erase payload := by
    rw [nodup.erase_eq_filter, List.filter_map]
    rfl
  have shorter := List.length_erase_of_mem member
  rw [← erased, List.length_map, List.length_map] at shorter
  have present : 0 < recent.length := List.length_pos_of_mem entryMember
  unfold FreedHistory.lookup
  split
  · rename_i other tag found
    have foundPayload : other = payload := by simpa using List.find?_some found
    refine ⟨tag, ((payload, tag) :: (FreedHistory.remove payload ⟨capacity, recent⟩).recent).take capacity,
      rfl, ?_⟩
    rw [List.take_of_length_le (by simp only [List.length_cons]; omega), List.map_cons, erased]
    exact (List.perm_cons_erase member).symm
  · rename_i missing
    exact absurd (List.find?_eq_none.mp missing entry entryMember) (by simp [entryPayload])

/-- A new block's address is not remembered as freed. -/
theorem Remembers.enroll {placed added : List Placed} (remembers : Remembers settings history placed)
    {payload : Nat} (fresh : payload ∉ freedPayloads placed)
    (same : freedPayloads (placed ++ added) = freedPayloads placed) :
    Remembers settings (history.map (FreedHistory.remove payload)) (placed ++ added) := by
  obtain ⟨recent, rfl, exact⟩ := remembers
  unfold Remembers
  rw [same]
  by_cases positive : 0 < settings.freedHistory
  · rw [if_pos positive, Option.map_some]
    refine ⟨(FreedHistory.remove payload ⟨settings.freedHistory.toNat, recent⟩).recent,
      by rw [if_pos positive]; rfl, fun fits => ?_⟩
    have perm := exact fits
    rw [FreedHistory.remove_recent_of_fresh fun member => fresh (perm.subset member)]
    exact perm
  · rw [if_neg positive, Option.map_none]
    exact ⟨recent, by rw [if_neg positive], exact⟩

/-- A double free finds the freed address in the history, which keeps remembering the same
addresses. -/
theorem Remembers.lookup {placed : List Placed} (remembers : Remembers settings history placed)
    (nodup : (freedPayloads placed).Nodup) (fits : (freedPayloads placed).length ≤ historyCapacity settings)
    {payload : Nat} (member : payload ∈ freedPayloads placed) :
    ∃ current tag, history = some current ∧ (current.lookup payload).1 = some tag ∧
      Remembers settings (some (current.lookup payload).2) placed := by
  obtain ⟨recent, rfl, exact⟩ := remembers
  have perm := exact fits
  have positive : 0 < settings.freedHistory := by
    by_contra nonpositive
    have := List.length_pos_of_mem member
    simp only [historyCapacity, if_neg nonpositive] at fits
    omega
  have room : recent.length ≤ settings.freedHistory.toNat := by
    have := perm.length_eq
    simp only [historyCapacity, if_pos positive, List.length_map] at this fits
    omega
  obtain ⟨tag, later, looked, keeps⟩ := FreedHistory.lookup_recent (perm.nodup_iff.mpr nodup)
    (perm.symm.subset member) room
  refine ⟨_, tag, if_pos positive, by rw [looked], later, ?_, fun _ => keeps.trans perm⟩
  rw [if_pos positive, looked]

end History

/-- The invariant of two allocators running one script, one counting and one tracking. -/
structure Twins (left right : Allocator) (placed : List Placed) : Prop where
  settings : left.settings = right.settings
  reporter : left.reporter = right.reporter
  leakRan : left.leakRan = right.leakRan
  leftSource : left.source = .heap
  rightSource : right.source = .heap
  counting : left.backend = .lockfree left.counters
  tracking : right.backend = .guarded right.tracker
  blocks : left.counters.blocks = right.tracker.blocks ∧ right.tracker.blocks = (liveSlots placed).length
  bytes : left.counters.bytes = right.tracker.bytes ∧ right.tracker.bytes = liveBytes placed
  peak : left.counters.peak = right.tracker.peak ∧ right.tracker.bytes ≤ right.tracker.peak
  table : right.tracker.list.Sound (liveSlots placed)
  entries : ∀ block ∈ placed, block.live = true → right.tracker.list.entryAt? block.slot = some block.entry
  slots : right.tracker.list.slots.size < 2 ^ 32
  history : Remembers left.settings right.tracker.history placed
  leftApart : left.space.Apart
  rightApart : right.space.Apart
  nextBase : left.space.nextBase = right.space.nextBase
  aligned : left.space.nextBase % minimumAlignment = 0
  laid : ∀ block ∈ placed, block.Laid
  leftStored : ∀ block ∈ placed, block.Stored left.space block.header
  rightStored : ∀ block ∈ placed, block.Stored right.space block.trackedHeader
  apart : placed.Pairwise Placed.Apart

namespace Twins

variable {left right : Allocator} {placed : List Placed}

/-! ### What the twins share -/

/-- Only the reports and the metrics change between the states, so the twins stay twins. -/
theorem stable (placed : List Placed) : Allocator.Stable fun left right => Twins left right placed := by
  intro left right left' right' twins leftCore rightCore
  rcases left with ⟨⟩
  rcases left' with ⟨⟩
  rcases right with ⟨⟩
  rcases right' with ⟨⟩
  simp only [Allocator.core, Allocator.mk.injEq] at leftCore rightCore
  obtain ⟨rfl, rfl, rfl, rfl, rfl, rfl, rfl, rfl, rfl, -, -⟩ := leftCore
  obtain ⟨rfl, rfl, rfl, rfl, rfl, rfl, rfl, rfl, rfl, -, -⟩ := rightCore
  exact { twins with }

/-- Two placed blocks with one payload address are one block. -/
theorem eq_of_payload (twins : Twins left right placed) {first second : Placed} (firstMember : first ∈ placed)
    (secondMember : second ∈ placed) (same : first.payload = second.payload) : first = second := by
  by_contra different
  have disjoint := twins.apart.forall firstMember secondMember different
  exact (twins.laid first firstMember).payload_ne (twins.laid second secondMember) disjoint same

theorem slot_mem {block : Placed} (member : block ∈ placed) (live : block.live = true) :
    block.slot ∈ liveSlots placed :=
  List.mem_map_of_mem (List.mem_filter.mpr ⟨member, live⟩)

/-- The table finds a live block in its slot. -/
theorem slotOf_live (twins : Twins left right placed) {block : Placed} (member : block ∈ placed)
    (live : block.live = true) : right.tracker.list.slotOf? block.payload = some block.slot :=
  (twins.table.byAddr _ _).mpr ⟨slot_mem member live, by rw [twins.entries block member live]; rfl⟩

/-- The table does not find a freed block. -/
theorem slotOf_freed (twins : Twins left right placed) {block : Placed} (member : block ∈ placed)
    (freed : block.live = false) : right.tracker.list.slotOf? block.payload = none := by
  rcases found : right.tracker.list.slotOf? block.payload with _ | slot
  · rfl
  · obtain ⟨chained, payloadOf⟩ := (twins.table.byAddr _ _).mp found
    obtain ⟨other, otherMember, rfl⟩ := List.mem_map.mp chained
    obtain ⟨otherPlaced, otherLive⟩ := List.mem_filter.mp otherMember
    rw [twins.entries other otherPlaced otherLive, Option.map_some, Option.some.injEq] at payloadOf
    have same := twins.eq_of_payload otherPlaced member payloadOf
    rw [same, freed] at otherLive
    cases otherLive

/-! ### Freeing a live block -/

section Free

variable {before after : List Placed} {block : Placed}

theorem apart_of_mem (twins : Twins left right (before ++ block :: after)) {other : Placed}
    (member : other ∈ before ∨ other ∈ after) : other.Apart block := by
  have pairwise := twins.apart
  simp only [List.pairwise_append, List.pairwise_cons, List.mem_cons] at pairwise
  rcases member with inFront | behind
  · exact pairwise.2.2 other inFront block (.inl rfl)
  · exact Or.symm (pairwise.2.1.1 other behind)

theorem slot_ne (twins : Twins left right (before ++ block :: after)) (live : block.live = true)
    {other : Placed} (member : other ∈ before ∨ other ∈ after) (otherLive : other.live = true) :
    other.slot ≠ block.slot := by
  have nodup := twins.table.nodup
  simp only [liveSlots, List.filter_append, List.filter_cons, live, if_true, List.map_append,
    List.map_cons] at nodup
  have fresh := (List.nodup_cons.mp (List.nodup_middle.mp nodup)).1
  rintro same
  apply fresh
  rw [← same]
  rcases member with inFront | behind
  · exact List.mem_append_left _ (List.mem_map_of_mem (List.mem_filter.mpr ⟨inFront, otherLive⟩))
  · exact List.mem_append_right _ (List.mem_map_of_mem (List.mem_filter.mpr ⟨behind, otherLive⟩))

theorem payload_not_freed (twins : Twins left right (before ++ block :: after)) (live : block.live = true) :
    block.payload ∉ freedPayloads (before ++ block :: after) := by
  intro freedOne
  obtain ⟨other, otherMember, same⟩ := List.mem_map.mp freedOne
  obtain ⟨otherPlaced, otherFreed⟩ := List.mem_filter.mp otherMember
  rw [twins.eq_of_payload otherPlaced (by simp) same, live] at otherFreed
  cases otherFreed

/-- Freeing a live block on both sides keeps the twins, with the block freed. -/
theorem free (twins : Twins left right (before ++ block :: after)) (live : block.live = true) :
    Twins (Allocator.countedFree left.counters block.header block.payload left)
      (Allocator.trackedFree right.tracker block.slot block.trackedHeader block.payload right)
      (before ++ block.freed :: after) := by
  have member : block ∈ before ++ block :: after := by simp
  have laid := twins.laid block member
  have chained := slot_mem member live
  obtain ⟨sameBlocks, countBlocks⟩ := twins.blocks
  obtain ⟨sameBytes, countBytes⟩ := twins.bytes
  have lengthOf : block.trackedHeader.length.toNat = block.entry.length := by
    rw [Placed.trackedHeader_length, laid.length]
  have leftOthers : ∀ other ∈ before ++ block.freed :: after, other.Stored
      (Allocator.marked block.header block.payload left.settings.debugMemset left.space) other.header := by
    intro other otherMember
    rcases mem_freed_iff.mp otherMember with inFront | rfl | behind
    · exact (twins.leftStored other (by simp [inFront])).marked_of_apart twins.leftApart
        (twins.laid other (by simp [inFront])) laid (twins.apart_of_mem (.inl inFront)) rfl laid.length _
    · exact (twins.leftStored block member).marked_self twins.leftApart laid rfl _
    · exact (twins.leftStored other (by simp [behind])).marked_of_apart twins.leftApart
        (twins.laid other (by simp [behind])) laid (twins.apart_of_mem (.inr behind)) rfl laid.length _
  have rightOthers : ∀ other ∈ before ++ block.freed :: after, other.Stored
      (Allocator.marked block.trackedHeader block.payload right.settings.debugMemset right.space)
      other.trackedHeader := by
    intro other otherMember
    rcases mem_freed_iff.mp otherMember with inFront | rfl | behind
    · exact (twins.rightStored other (by simp [inFront])).marked_of_apart twins.rightApart
        (twins.laid other (by simp [inFront])) laid (twins.apart_of_mem (.inl inFront))
        block.trackedHeader_tailOffset lengthOf _
    · exact (twins.rightStored block member).marked_self twins.rightApart laid block.trackedHeader_tailOffset _
    · exact (twins.rightStored other (by simp [behind])).marked_of_apart twins.rightApart
        (twins.laid other (by simp [behind])) laid (twins.apart_of_mem (.inr behind))
        block.trackedHeader_tailOffset lengthOf _
  unfold Allocator.countedFree Allocator.trackedFree
  rw [Allocator.retired_of_heap twins.leftSource, Allocator.retired_of_heap twins.rightSource]
  have shorter := List.length_erase_of_mem chained
  have fewerBytes : liveBytes (before ++ block.freed :: after) + block.entry.length =
    liveBytes (before ++ block :: after) := liveBytes_freed live
  have positive : 0 < (liveSlots (before ++ block :: after)).length := List.length_pos_of_mem chained
  refine ⟨twins.settings, twins.reporter, twins.leakRan, twins.leftSource, twins.rightSource, rfl, rfl,
    ?_, ?_, ?_, ?_, ?_, ?_, ?_, twins.leftApart.marked _ _ _, twins.rightApart.marked _ _ _, ?_, ?_, ?_,
    leftOthers, rightOthers, pairwise_freed twins.apart⟩
  · simp only [Allocator.counters_mk, Allocator.tracker_mk, liveSlots_freed live twins.table.nodup, shorter]
    omega
  · simp only [Allocator.counters_mk, Allocator.tracker_mk, lengthOf]
    rw [← laid.length] at fewerBytes ⊢
    omega
  · simp only [Allocator.counters_mk, Allocator.tracker_mk]
    exact ⟨twins.peak.1, by have := twins.peak.2; omega⟩
  · simp only [Allocator.tracker_mk]
    rw [liveSlots_freed live twins.table.nodup]
    exact twins.table.remove (twins.slotOf_live member live)
  · intro other otherMember otherLive
    simp only [Allocator.tracker_mk]
    rcases mem_freed_iff.mp otherMember with inFront | rfl | behind
    · rw [Memlist.remove_entryAt? _ _ _ (twins.slot_ne live (.inl inFront) otherLive)]
      exact twins.entries other (by simp [inFront]) otherLive
    · cases otherLive
    · rw [Memlist.remove_entryAt? _ _ _ (twins.slot_ne live (.inr behind) otherLive)]
      exact twins.entries other (by simp [behind]) otherLive
  · simp only [Allocator.tracker_mk]
    exact (Memlist.unlink_size _ _).trans_lt twins.slots
  · exact twins.history.free live (twins.payload_not_freed live) _
  · simp only [Allocator.nextBase_marked]
    exact twins.nextBase
  · simp only [Allocator.nextBase_marked]
    exact twins.aligned
  · intro other otherMember
    rcases mem_freed_iff.mp otherMember with inFront | rfl | behind
    · exact twins.laid other (by simp [inFront])
    · exact laid.freed
    · exact twins.laid other (by simp [behind])

end Free

/-! ### Placing a new block -/

section Enroll

variable {region : Region} {request : Request}

/-- The slot for a new entry is a free one, or one more than the table's chained slots. -/
theorem size_allocSlot {list : Memlist} {order : List Nat} (sound : list.Sound order) :
    list.allocSlot.2.slots.size ≤ max list.slots.size (order.length + 1) := by
  have partition := sound.partition
  unfold Memlist.allocSlot
  cases free : list.freeSlots with
  | cons slot rest => simp
  | nil =>
    rw [free, List.append_nil] at partition
    have sized := partition.length_eq
    simp only [List.length_range] at sized
    simp only [Array.size_push]
    omega

/-- Entering a new block into both allocators, in a region above every placed one that both
spaces hold, keeps the twins, with the block placed last. -/
theorem enroll (twins : Twins left right placed) (laid : (Placed.ofRegion region request 0).Laid)
    (above : ∀ block ∈ placed, block.base + block.total ≤ region.base)
    (leftHeld : left.space.holds region.base region.total = true)
    (rightHeld : right.space.holds region.base region.total = true)
    (below : region.base + region.total ≤ left.space.nextBase) (room : right.tracker.blocks + 1 < 2 ^ 32) :
    Twins (Allocator.enrolled region request left) (Allocator.enrolled region request right)
      (placed ++ [Placed.ofRegion region request (right.tracker.list.insert
        (Placed.ofRegion region request 0).entry).1]) := by
  set entry := (Placed.ofRegion region request 0).entry with entryIs
  set slot := (right.tracker.list.insert entry).1 with slotIs
  set block := Placed.ofRegion region request slot with blockIs
  have blockLaid : block.Laid := laid.ofRegion slot
  obtain ⟨fresh, bound, _⟩ := twins.table.allocSlot
  obtain ⟨sameBlocks, countBlocks⟩ := twins.blocks
  obtain ⟨sameBytes, countBytes⟩ := twins.bytes
  have headerAt := blockLaid.headerInside
  have tailAt := blockLaid.tailInside
  have baseIs : block.base = region.base := rfl
  have totalIs : block.total = region.total := rfl
  have payloadIs : block.payload = region.payload := rfl
  have tailIs : block.header.tailOffset = (Allocator.stampHeader region request 0).tailOffset := rfl
  have untracked : right.tracker.list.slotOf? block.payload = none := by
    rcases found : right.tracker.list.slotOf? block.payload with _ | found
    · rfl
    · obtain ⟨chained, payloadOf⟩ := (twins.table.byAddr _ _).mp found
      obtain ⟨other, otherMember, rfl⟩ := List.mem_map.mp chained
      obtain ⟨otherPlaced, otherLive⟩ := List.mem_filter.mp otherMember
      rw [twins.entries other otherPlaced otherLive, Option.map_some, Option.some.injEq] at payloadOf
      have := (twins.laid other otherPlaced).tailInside
      have := above other otherPlaced
      change other.payload = block.payload at payloadOf
      omega
  have liveAdded : liveSlots (placed ++ [block]) = liveSlots placed ++ [slot] := by
    simp [liveSlots, blockIs, Placed.ofRegion]
  have bytesAdded : liveBytes (placed ++ [block]) = liveBytes placed + request.length := by
    simp [liveBytes, blockIs, Placed.ofRegion]
  have notFreed : block.payload ∉ freedPayloads placed := by
    intro freedOne
    obtain ⟨other, otherMember, same⟩ := List.mem_map.mp freedOne
    have otherPlaced := (List.mem_filter.mp otherMember).1
    have := (twins.laid other otherPlaced).tailInside
    have := above other otherPlaced
    omega
  have leftStored : ∀ other ∈ placed ++ [block], other.Stored
      (Allocator.stamped region request 0 left.space) other.header := by
    intro other member
    rcases List.mem_append.mp member with old | new
    · exact (twins.leftStored other old).stamped twins.leftApart (twins.laid other old) request 0
        headerAt (above other old)
    · rw [List.mem_singleton.mp new]
      exact Placed.stored_of_writes twins.leftApart blockLaid leftHeld below block.header
  have rightStored : ∀ other ∈ placed ++ [block], other.Stored
      (Allocator.stamped region request (slot + 1) right.space) other.trackedHeader := by
    intro other member
    rcases List.mem_append.mp member with old | new
    · exact (twins.rightStored other old).stamped twins.rightApart (twins.laid other old) request
        (slot + 1) headerAt (above other old)
    · rw [List.mem_singleton.mp new]
      have stored := Placed.stored_of_writes twins.rightApart blockLaid rightHeld
        (twins.nextBase ▸ below) block.trackedHeader
      unfold Allocator.stamped
      rw [Placed.stampHeader_tailOffset, ← Placed.ofRegion_trackedHeader]
      exact stored
  unfold Allocator.enrolled
  rw [twins.counting, twins.tracking]
  dsimp only
  refine ⟨twins.settings, twins.reporter, twins.leakRan, twins.leftSource, twins.rightSource, rfl, rfl,
    ?_, ?_, ?_, ?_, ?_, ?_, ?_, twins.leftApart.write _ _ |>.write _ _, twins.rightApart.write _ _ |>.write _ _,
    ?_, ?_, ?_, leftStored, rightStored, ?_⟩
  · simp only [Allocator.counters_mk, Allocator.tracker_mk, liveAdded, List.length_append,
      List.length_singleton]
    omega
  · simp only [Allocator.counters_mk, Allocator.tracker_mk, bytesAdded]
    omega
  · simp only [Allocator.counters_mk, Allocator.tracker_mk]
    have := twins.peak.1
    omega
  · simp only [Allocator.tracker_mk, liveAdded]
    exact twins.table.insert entry untracked
  · intro other member otherLive
    simp only [Allocator.tracker_mk]
    rw [Memlist.insert_entryAt? _ _ bound]
    rcases List.mem_append.mp member with old | new
    · have differs : other.slot ≠ right.tracker.list.allocSlot.1 := fun same => fresh (same ▸ slot_mem old otherLive)
      rw [if_neg differs]
      exact twins.entries other old otherLive
    · rw [List.mem_singleton.mp new]
      exact if_pos rfl
  · simp only [Allocator.tracker_mk, Memlist.insert_size]
    have := size_allocSlot twins.table
    have := twins.slots
    omega
  · exact twins.history.enroll notFreed (by simp [freedPayloads, blockIs, Placed.ofRegion])
  · simp only [Allocator.stamped, Space.nextBase_write]
    exact twins.nextBase
  · simp only [Allocator.stamped, Space.nextBase_write]
    exact twins.aligned
  · intro other member
    rcases List.mem_append.mp member with old | new
    · exact twins.laid other old
    · rw [List.mem_singleton.mp new]
      exact blockLaid
  · refine List.pairwise_append.mpr ⟨twins.apart, List.pairwise_singleton _ _, ?_⟩
    intro other member new newMember
    rw [List.mem_singleton.mp newMember]
    exact .inl (above other member)

end Enroll

/-! ### Writes, reservations and lookups -/

section Changes

/-- The same write on both sides, off every block's header and tail, keeps the twins. -/
theorem write (twins : Twins left right placed) (start : Nat) (bytes : List UInt8)
    (spares : ∀ block ∈ placed, block.Spares start bytes.length) :
    Twins { left with space := left.space.write start bytes } { right with space := right.space.write start bytes }
      placed := by
  refine { twins with
    leftApart := twins.leftApart.write start bytes
    rightApart := twins.rightApart.write start bytes
    nextBase := ?_
    aligned := ?_
    leftStored := fun block member =>
      (twins.leftStored block member).write twins.leftApart (twins.laid block member) (spares block member)
    rightStored := fun block member =>
      (twins.rightStored block member).write twins.rightApart (twins.laid block member) (spares block member) }
  · simp only [Space.nextBase_write]
    exact twins.nextBase
  · simp only [Space.nextBase_write]
    exact twins.aligned

/-- A write inside the payload of a placed block, live or freed, keeps the twins. -/
theorem write_payload (twins : Twins left right placed) {owner : Placed} (owned : owner ∈ placed)
    {start : Nat} {bytes : List UInt8} (after : owner.payload ≤ start)
    (before : start + bytes.length ≤ owner.payload + owner.entry.length) :
    Twins { left with space := left.space.write start bytes } { right with space := right.space.write start bytes }
      placed := by
  have ownerLaid := twins.laid owner owned
  refine twins.write start bytes fun block member => ?_
  by_cases same : block = owner
  · rw [same]
    exact Placed.spares_of_payload after (by have := ownerLaid.within; omega)
  · have := ownerLaid.headerInside
    have := ownerLaid.tailInside
    have := ownerLaid.within
    exact (twins.laid block member).spares_of_apart (twins.apart.forall member owned same) (by omega) (by omega)

/-- A write past every placed block keeps the twins. -/
theorem write_above (twins : Twins left right placed) {start : Nat} (bytes : List UInt8)
    (above : ∀ block ∈ placed, block.base + block.total ≤ start) :
    Twins { left with space := left.space.write start bytes } { right with space := right.space.write start bytes }
      placed :=
  twins.write start bytes fun block member => (twins.laid block member).spares_of_le (above block member)

/-- A reservation of the same size on both sides keeps the twins, and gives both the same fresh
region, past every placed block and held by both spaces. -/
theorem reserve (twins : Twins left right placed) (size : Nat) :
    Twins { left with space := (left.space.reserve size).2 } { right with space := (right.space.reserve size).2 }
      placed ∧ (right.space.reserve size).1 = left.space.nextBase ∧
      (∀ block ∈ placed, block.base + block.total ≤ left.space.nextBase) ∧
      (left.space.reserve size).2.holds left.space.nextBase size = true ∧
      (right.space.reserve size).2.holds left.space.nextBase size = true ∧
      left.space.nextBase + size ≤ (left.space.reserve size).2.nextBase := by
  have grows := Space.nextBase_lt_reserve left.space size
  have heldLeft := Space.holds_reserved left.space size left.space.nextBase size ⟨le_rfl, le_rfl⟩
  have heldRight := Space.holds_reserved right.space size right.space.nextBase size ⟨le_rfl, le_rfl⟩
  rw [← twins.nextBase] at heldRight
  refine ⟨{ twins with
    leftApart := twins.leftApart.reserve size
    rightApart := twins.rightApart.reserve size
    nextBase := ?_
    aligned := ?_
    leftStored := fun block member =>
      (twins.leftStored block member).reserve twins.leftApart (twins.laid block member) size
    rightStored := fun block member =>
      (twins.rightStored block member).reserve twins.rightApart (twins.laid block member) size },
    twins.nextBase.symm, fun block member => (twins.leftStored block member).below,
    (Space.holds_iff_exists _ _ _).mpr ⟨_, heldLeft⟩, (Space.holds_iff_exists _ _ _).mpr ⟨_, heldRight⟩, grows.le⟩
  · simp only [Space.reserve, twins.nextBase]
  · have := alignUp_mod (left.space.nextBase + size + pageSize) pageSize (by decide)
    simp only [Space.reserve, pageSize, minimumAlignment] at this ⊢
    omega

/-- Looking a freed address up moves it to the front of the history, keeping the twins. -/
theorem lookedUp (twins : Twins left right placed) {current : FreedHistory} {payload : Nat}
    (history : right.tracker.history = some current)
    (remembers : Remembers left.settings (some (current.lookup payload).2) placed) :
    Twins left (Allocator.lookedUp right.tracker payload right) placed := by
  unfold Allocator.lookedUp
  rw [history]
  exact { twins with
    tracking := rfl
    blocks := twins.blocks
    bytes := twins.bytes
    peak := twins.peak
    table := twins.table
    entries := twins.entries
    slots := twins.slots
    history := remembers }

end Changes

end Twins

end HeapKit.Memory
