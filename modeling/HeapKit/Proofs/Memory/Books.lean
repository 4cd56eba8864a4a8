import HeapKit.Proofs.Memory.Twins

/-!
# The books of one allocator

`Twins` follows two allocators through one script. Most of what it says holds of each of them
alone: the blocks placed so far, live or freed, lie apart and laid out, each header and tail reads
as the backend stamped it, and the backend's counts agree with the live blocks. `Books allocator
placed` says this of one allocator on either backend. The header a backend stamps on a block is
`Placed.stampedBy`: the tracking backend writes the block's slot into it.

The books survive what an allocator does with memory: a write off every header and tail, a
reservation, the enrolment of a new block in a region above all others, and the free of a live
block that lives in a frame (a frame is never given back to a source, whatever the source is).
From the books, the liveness query of either backend answers exactly whether a placed block is
live (`Books.isLive_run`): the counting backend reads a valid header only in front of a live
block, because a freed one keeps both tags `FREE`, and the tracking backend finds exactly the live
blocks in its table.
-/

namespace HeapKit.Memory

open HeapKit.Endian Allocator

namespace Header

variable (header : Header)

theorem freedTag_ne_liveFrontTag : freedTag ≠ liveFrontTag := by decide

@[simp] theorem isValid_markFreed : header.markFreed.isValid = false := by
  simp [isValid, isLive, markFreed, freedTag_ne_liveFrontTag]

@[simp] theorem isFreed_markFreed : header.markFreed.isFreed = true := by
  simp [isFreed, markFreed]

@[simp] theorem kind_markFreed : header.markFreed.kind = header.kind := rfl

@[simp] theorem length_markFreed : header.markFreed.length = header.length := rfl

@[simp] theorem tailOffset_markFreed : header.markFreed.tailOffset = header.tailOffset := rfl

/-- A valid header carries the live tags, so it does not read as freed. -/
theorem isFreed_of_isValid {header : Header} (valid : header.isValid = true) : header.isFreed = false := by
  simp only [isValid, isLive, Bool.and_eq_true, beq_iff_eq] at valid
  simp [isFreed, valid.1.1.1.1.1.1, freedTag_ne_liveFrontTag.symm]

end Header

namespace Placed

/-- The header a backend stamps on a placed block: the tracking backend writes the block's slot
into it. -/
def stampedBy (block : Placed) : Backend → Header
  | .lockfree _ => block.header
  | .guarded _ => block.trackedHeader

section Stamps

variable (block : Placed) (backend : Backend)

@[simp] theorem stampedBy_length : (block.stampedBy backend).length = block.header.length := by
  cases backend <;> rfl

@[simp] theorem stampedBy_kind : (block.stampedBy backend).kind = block.header.kind := by
  cases backend <;> rfl

@[simp] theorem stampedBy_tailOffset : (block.stampedBy backend).tailOffset = block.header.tailOffset := by
  cases backend
  · rfl
  · exact block.trackedHeader_tailOffset

@[simp] theorem stampedBy_isValid : (block.stampedBy backend).isValid = block.header.isValid := by
  cases backend
  · rfl
  · exact block.trackedHeader_isValid

@[simp] theorem stampedBy_isFrame : (block.stampedBy backend).isFrame = block.header.isFrame := by
  cases backend <;> rfl

end Stamps

end Placed

/-- The tracking backend's books over the placed blocks: it counts the live blocks and their
bytes, its table chains exactly their slots and keeps each one's entry there, and it has fewer
than `2 ^ 32` slots, so that a slot fits the header. -/
structure Tabled (tracker : Tracker) (placed : List Placed) : Prop where
  blocks : tracker.blocks = (liveSlots placed).length
  bytes : tracker.bytes = liveBytes placed
  table : tracker.list.Sound (liveSlots placed)
  entries : ∀ block ∈ placed, block.live = true → tracker.list.entryAt? block.slot = some block.entry
  slots : tracker.list.slots.size < 2 ^ 32

/-- What a backend counts: the live blocks and their bytes, and for the tracking backend the
table of their slots. -/
def Counted : Backend → List Placed → Prop
  | .lockfree counters, placed =>
    counters.blocks = (liveSlots placed).length ∧ counters.bytes = liveBytes placed
  | .guarded tracker, placed => Tabled tracker placed

/-- The books of one allocator over the blocks it placed, live or freed: its areas lie apart with
a word-aligned next base, the blocks are laid out and lie apart, each one's header and tail read
as the backend stamped them (marked freed once the block is freed), and the backend counts the
live ones. -/
structure Books (allocator : Allocator) (placed : List Placed) : Prop where
  apart : allocator.space.Apart
  aligned : allocator.space.nextBase % minimumAlignment = 0
  laid : ∀ block ∈ placed, block.Laid
  separate : placed.Pairwise Placed.Apart
  stored : ∀ block ∈ placed, block.Stored allocator.space (block.stampedBy allocator.backend)
  counted : Counted allocator.backend placed

/-- The slot a backend gives a new block: the tracking backend's next free slot, and slot zero,
which it does not keep, on the counting backend. -/
def Allocator.slotFor (allocator : Allocator) (region : Region) (request : Request) : Nat :=
  match allocator.backend with
  | .lockfree _ => 0
  | .guarded tracker => (tracker.list.insert (Placed.ofRegion region request 0).entry).1

/-- The allocator after its backend frees a placed block: the counting backend counts it out, the
tracking backend takes it out of its table and remembers its address, and both mark it freed. -/
def Allocator.freedPlaced (allocator : Allocator) (block : Placed) : Allocator :=
  match allocator.backend with
  | .lockfree counters => countedFree counters block.header block.payload allocator
  | .guarded tracker => trackedFree tracker block.slot block.trackedHeader block.payload allocator

/-- A frame is marked freed where it is; it is never given back to a source. -/
theorem retired_of_isFrame {header : Header} (frame : header.isFrame = true) (payload : Nat)
    (allocator : Allocator) :
    retired header payload allocator =
      { allocator with space := marked header payload allocator.settings.debugMemset allocator.space } := by
  unfold retired
  rw [if_pos frame]

/-- Freeing a block changes no count of its own: the backend changed before. -/
theorem backend_retired (header : Header) (payload : Nat) (allocator : Allocator) :
    (retired header payload allocator).backend = allocator.backend := by
  unfold retired released
  split
  · rfl
  · dsimp only
    split <;> rfl

theorem journal_retired (header : Header) (payload : Nat) (allocator : Allocator) :
    (retired header payload allocator).journal = allocator.journal := by
  unfold retired released
  split
  · rfl
  · dsimp only
    split <;> rfl

theorem leakRan_retired (header : Header) (payload : Nat) (allocator : Allocator) :
    (retired header payload allocator).leakRan = allocator.leakRan := by
  unfold retired released
  split
  · rfl
  · dsimp only
    split <;> rfl

/-- A counter that drops by some amount reads that much lower as a machine word. -/
theorem unsignedWord_sub_add (value : Int) (drop : Nat) :
    (unsignedWord (value - drop) + drop) % 2 ^ 64 = unsignedWord value % 2 ^ 64 := by
  unfold unsignedWord
  have modulus : Int.pow 2 64 = 2 ^ 64 := rfl
  rw [modulus]
  omega

/-- Freeing a live block counts one block fewer. -/
theorem length_liveSlots_freed {before after : List Placed} {block : Placed} (live : block.live = true) :
    (liveSlots (before ++ block.freed :: after)).length + 1 = (liveSlots (before ++ block :: after)).length := by
  simp only [liveSlots, List.filter_append, List.filter_cons, live, Placed.freed, if_true,
    Bool.false_eq_true, if_false, List.map_append, List.map_cons, List.length_append, List.length_map,
    List.length_cons]
  omega

namespace Tabled

variable {tracker : Tracker} {before after : List Placed} {block : Placed}

/-- Another live block is in another slot. -/
theorem slot_ne (tabled : Tabled tracker (before ++ block :: after)) (live : block.live = true)
    {other : Placed} (member : other ∈ before ∨ other ∈ after) (otherLive : other.live = true) :
    other.slot ≠ block.slot := by
  have nodup := tabled.table.nodup
  simp only [liveSlots, List.filter_append, List.filter_cons, live, if_true, List.map_append,
    List.map_cons] at nodup
  have fresh := (List.nodup_cons.mp (List.nodup_middle.mp nodup)).1
  rintro same
  apply fresh
  rw [← same]
  rcases member with inFront | behind
  · exact List.mem_append_left _ (List.mem_map_of_mem (List.mem_filter.mpr ⟨inFront, otherLive⟩))
  · exact List.mem_append_right _ (List.mem_map_of_mem (List.mem_filter.mpr ⟨behind, otherLive⟩))

end Tabled

namespace Books

variable {allocator : Allocator} {placed : List Placed}

/-- A fresh allocator has placed nothing. -/
theorem fresh : Books ({} : Allocator) [] where
  apart := Space.room_empty.apart
  aligned := by decide
  laid := fun _ absent => nomatch absent
  separate := List.Pairwise.nil
  stored := fun _ absent => nomatch absent
  counted := ⟨rfl, rfl⟩

/-- Only the reports and the metrics changed: the books still hold. -/
theorem of_core (books : Books allocator placed) {next : Allocator} (kept : next.core = allocator.core) :
    Books next placed := by
  have space : next.space = allocator.space := by
    have sameSpace := congrArg Allocator.space kept
    exact sameSpace
  have backend : next.backend = allocator.backend := Allocator.backend_eq_of_core kept
  obtain ⟨apart, aligned, laid, separate, stored, counted⟩ := books
  refine ⟨space ▸ apart, space ▸ aligned, laid, separate, ?_, backend ▸ counted⟩
  rw [space, backend]
  exact stored

/-- Two placed blocks with one payload address are one block. -/
theorem eq_of_payload (books : Books allocator placed) {first second : Placed} (firstMember : first ∈ placed)
    (secondMember : second ∈ placed) (same : first.payload = second.payload) : first = second := by
  by_contra different
  have disjoint := books.separate.forall firstMember secondMember different
  exact (books.laid first firstMember).payload_ne (books.laid second secondMember) disjoint same

/-- Every placed block lies below the next base. -/
theorem below_nextBase (books : Books allocator placed) {block : Placed} (member : block ∈ placed) :
    block.base + block.total ≤ allocator.space.nextBase :=
  (books.stored block member).below

theorem counters_eq (books : Books allocator placed) {counters : Counters}
    (backend : allocator.backend = .lockfree counters) :
    counters.blocks = (liveSlots placed).length ∧ counters.bytes = liveBytes placed := by
  have counted := books.counted
  rw [backend] at counted
  exact counted

theorem tabled (books : Books allocator placed) {tracker : Tracker} (backend : allocator.backend = .guarded tracker) :
    Tabled tracker placed := by
  have counted := books.counted
  rw [backend] at counted
  exact counted

/-! ### What the backends read -/

section Reading

variable {block : Placed}

/-- The header in front of a placed block reads as the backend stamped it, marked freed once the
block is freed. -/
theorem header_read (books : Books allocator placed) (member : block ∈ placed) :
    Header.decode (allocator.space.readOrZero (block.payload - headerSize) headerSize) =
      block.current (block.stampedBy allocator.backend) := by
  rw [(books.stored block member).headerBytes, Header.decode_encode]

/-- The tail behind a placed block reads its tag. -/
theorem tail_read (books : Books allocator placed) (member : block ∈ placed) :
    read32 (allocator.space.readOrZero (block.payload + block.header.tailOffset) 4) = block.tailTag := by
  rw [(books.stored block member).tailBytes, read32_bytesLE_self]

/-- A valid header reads as valid exactly while its block is live. -/
theorem current_isValid (valid : block.header.isValid = true) (backend : Backend) :
    (block.current (block.stampedBy backend)).isValid = block.live := by
  unfold Placed.current
  cases block.live <;> simp [valid]

/-- The tracking backend's table finds a live block in its slot. -/
theorem slotOf_live (books : Books allocator placed) {tracker : Tracker}
    (backend : allocator.backend = .guarded tracker) (member : block ∈ placed) (live : block.live = true) :
    tracker.list.slotOf? block.payload = some block.slot := by
  have tabled := books.tabled backend
  exact (tabled.table.byAddr _ _).mpr ⟨Twins.slot_mem member live, by rw [tabled.entries block member live]; rfl⟩

/-- The tracking backend's table does not find a freed block. -/
theorem slotOf_freed (books : Books allocator placed) {tracker : Tracker}
    (backend : allocator.backend = .guarded tracker) (member : block ∈ placed) (freed : block.live = false) :
    tracker.list.slotOf? block.payload = none := by
  have tabled := books.tabled backend
  rcases found : tracker.list.slotOf? block.payload with _ | slot
  · rfl
  · obtain ⟨chained, payloadOf⟩ := (tabled.table.byAddr _ _).mp found
    obtain ⟨other, otherMember, rfl⟩ := List.mem_map.mp chained
    obtain ⟨otherPlaced, otherLive⟩ := List.mem_filter.mp otherMember
    rw [tabled.entries other otherPlaced otherLive, Option.map_some, Option.some.injEq] at payloadOf
    rw [books.eq_of_payload otherPlaced member payloadOf, freed] at otherLive
    cases otherLive

/-- Whether a placed block's payload is live is answered exactly by whether the block is live,
on either backend. -/
theorem isLive_run (books : Books allocator placed) (member : block ∈ placed) :
    (isLive (some block.payload)).run.run allocator = (.ok block.live, allocator) := by
  have laid := books.laid block member
  unfold isLive
  rcases backend : allocator.backend with counters | tracker
  · -- the counting backend reads the header: valid while live, tagged freed after
    have answer := books.header_read member
    rw [backend] at answer
    simp only [run_bind, run_get, backend, laid.aligned, bne_self_eq_false, Bool.false_eq_true,
      if_false, loadHeader_run, run_pure, answer, current_isValid laid.valid]
  · -- the tracking backend looks its table up
    cases live : block.live
    · simp only [run_bind, run_get, backend, run_pure, books.slotOf_freed backend member live,
        Option.isSome_none]
    · simp only [run_bind, run_get, backend, run_pure, books.slotOf_live backend member live,
        Option.isSome_some]

end Reading

/-! ### Writes and reservations -/

/-- A write that stays off every placed block's header and tail keeps the books. -/
theorem write (books : Books allocator placed) (start : Nat) (bytes : List UInt8)
    (spares : ∀ block ∈ placed, block.Spares start bytes.length) :
    Books { allocator with space := allocator.space.write start bytes } placed where
  apart := books.apart.write start bytes
  aligned := by
    simp only [Space.nextBase_write]
    exact books.aligned
  laid := books.laid
  separate := books.separate
  stored := fun block member =>
    (books.stored block member).write books.apart (books.laid block member) (spares block member)
  counted := books.counted

/-- A write inside the payload of a placed block, live or freed, keeps the books. -/
theorem write_payload (books : Books allocator placed) {owner : Placed} (owned : owner ∈ placed)
    {start : Nat} {bytes : List UInt8} (after : owner.payload ≤ start)
    (before : start + bytes.length ≤ owner.payload + owner.entry.length) :
    Books { allocator with space := allocator.space.write start bytes } placed := by
  have ownerLaid := books.laid owner owned
  refine books.write start bytes fun block member => ?_
  by_cases same : block = owner
  · rw [same]
    exact Placed.spares_of_payload after (by have := ownerLaid.within; omega)
  · have := ownerLaid.headerInside
    have := ownerLaid.tailInside
    have := ownerLaid.within
    exact (books.laid block member).spares_of_apart (books.separate.forall member owned same) (by omega) (by omega)

/-- A reservation keeps the books. -/
theorem reserve (books : Books allocator placed) (size : Nat) :
    Books { allocator with space := (allocator.space.reserve size).2 } placed where
  apart := books.apart.reserve size
  aligned := by
    have := alignUp_mod (allocator.space.nextBase + size + pageSize) pageSize (by decide)
    simp only [Space.reserve, pageSize, minimumAlignment] at this ⊢
    omega
  laid := books.laid
  separate := books.separate
  stored := fun block member => (books.stored block member).reserve books.apart (books.laid block member) size
  counted := books.counted

/-! ### A new block -/

section Enroll

variable {region : Region} {request : Request}

/-- Stamping a new block above every placed one, under a backend that stamps it as `stamp` says and
the others as before, keeps the books with the block placed last. -/
theorem stamped (books : Books allocator placed) {slot stampSlot : Nat} {backend : Backend}
    (laid : (Placed.ofRegion region request 0).Laid)
    (above : ∀ block ∈ placed, block.base + block.total ≤ region.base)
    (held : allocator.space.holds region.base region.total = true)
    (below : region.base + region.total ≤ allocator.space.nextBase)
    (stamp : (Placed.ofRegion region request slot).stampedBy backend = stampHeader region request stampSlot)
    (sameStamps : ∀ block : Placed, block.stampedBy backend = block.stampedBy allocator.backend)
    (counted : Counted backend (placed ++ [Placed.ofRegion region request slot])) :
    Books { allocator with space := Allocator.stamped region request stampSlot allocator.space, backend }
      (placed ++ [Placed.ofRegion region request slot]) := by
  have blockLaid := laid.ofRegion slot
  have headerAt := blockLaid.headerInside
  refine ⟨(books.apart.write _ _).write _ _, ?_, ?_, ?_, ?_, counted⟩
  · simp only [Allocator.stamped, Space.nextBase_write]
    exact books.aligned
  · intro block member
    rcases List.mem_append.mp member with old | new
    · exact books.laid block old
    · rw [List.mem_singleton.mp new]
      exact blockLaid
  · refine List.pairwise_append.mpr ⟨books.separate, List.pairwise_singleton _ _, ?_⟩
    intro block member new newMember
    rw [List.mem_singleton.mp newMember]
    exact .inl (above block member)
  · intro block member
    rcases List.mem_append.mp member with old | new
    · rw [sameStamps]
      exact (books.stored block old).stamped books.apart (books.laid block old) request stampSlot headerAt
        (above block old)
    · rw [List.mem_singleton.mp new, stamp]
      have stored := Placed.stored_of_writes books.apart blockLaid held below (stampHeader region request stampSlot)
      unfold Allocator.stamped
      rw [Placed.stampHeader_tailOffset]
      exact stored

/-- The table has no slot for the payload of a region above every placed block: the live
blocks it indexes all lie below. -/
theorem slotOf?_above (books : Books allocator placed) {tracker : Tracker}
    (backend : allocator.backend = .guarded tracker) (laid : (Placed.ofRegion region request 0).Laid)
    (above : ∀ block ∈ placed, block.base + block.total ≤ region.base) :
    tracker.list.slotOf? region.payload = none := by
  have tabled := books.tabled backend
  rcases found : tracker.list.slotOf? region.payload with _ | found
  · rfl
  · obtain ⟨chained, payloadOf⟩ := (tabled.table.byAddr _ _).mp found
    obtain ⟨other, otherMember, rfl⟩ := List.mem_map.mp chained
    obtain ⟨otherPlaced, otherLive⟩ := List.mem_filter.mp otherMember
    rw [tabled.entries other otherPlaced otherLive, Option.map_some, Option.some.injEq] at payloadOf
    have := (books.laid other otherPlaced).tailInside
    have := above other otherPlaced
    have := laid.headerInside
    change other.payload = region.payload at payloadOf
    change region.base + headerSize ≤ region.payload at this
    omega

/-- Enrolling a new block, in a region above every placed one that the space holds, keeps the
books with the block placed last, in the slot its backend gives it. -/
theorem enroll (books : Books allocator placed) (laid : (Placed.ofRegion region request 0).Laid)
    (above : ∀ block ∈ placed, block.base + block.total ≤ region.base)
    (held : allocator.space.holds region.base region.total = true)
    (below : region.base + region.total ≤ allocator.space.nextBase)
    (room : (liveSlots placed).length + 1 < 2 ^ 32) :
    Books (enrolled region request allocator)
      (placed ++ [Placed.ofRegion region request (allocator.slotFor region request)]) := by
  have liveAdded : ∀ slot, liveSlots (placed ++ [Placed.ofRegion region request slot]) = liveSlots placed ++ [slot] := by
    intro slot
    simp [liveSlots, Placed.ofRegion]
  have bytesAdded : ∀ slot, liveBytes (placed ++ [Placed.ofRegion region request slot]) =
      liveBytes placed + request.length := by
    intro slot
    simp [liveBytes, Placed.ofRegion]
  unfold enrolled Allocator.slotFor
  rcases backend : allocator.backend with counters | tracker
  · -- the counting backend counts the block in
    obtain ⟨blocks, bytes⟩ := books.counters_eq backend
    refine books.stamped laid above held below rfl (fun block => by rw [backend]; rfl) ⟨?_, ?_⟩
    · rw [liveAdded, List.length_append, List.length_singleton, blocks]
      push_cast
      rfl
    · rw [bytesAdded, bytes]
      push_cast
      rfl
  · -- the tracking backend enters the block in a fresh slot of its table
    dsimp only
    have tabled := books.tabled backend
    set entry := (Placed.ofRegion region request 0).entry with entryIs
    set slot := (tracker.list.insert entry).1 with slotIs
    obtain ⟨fresh, bound, _⟩ := tabled.table.allocSlot
    have untracked : tracker.list.slotOf? (Placed.ofRegion region request slot).payload = none :=
      books.slotOf?_above backend laid above
    refine books.stamped laid above held below (Placed.ofRegion_trackedHeader region request slot)
      (fun block => by rw [backend]; rfl) ⟨?_, ?_, ?_, ?_, ?_⟩
    · rw [liveAdded, List.length_append, List.length_singleton, tabled.blocks]
    · rw [bytesAdded, tabled.bytes]
    · rw [liveAdded]
      exact tabled.table.insert entry untracked
    · intro other member otherLive
      rw [Memlist.insert_entryAt? _ _ bound]
      rcases List.mem_append.mp member with old | new
      · have differs : other.slot ≠ tracker.list.allocSlot.1 := fun same =>
          fresh (same ▸ Twins.slot_mem old otherLive)
        rw [if_neg differs]
        exact tabled.entries other old otherLive
      · rw [List.mem_singleton.mp new]
        exact if_pos rfl
    · rw [Memlist.insert_size]
      have := Twins.size_allocSlot tabled.table
      have := tabled.slots
      omega

end Enroll

/-! ### Freeing a live frame -/

section Free

variable {before after : List Placed} {block : Placed}

theorem apart_of_mem (books : Books allocator (before ++ block :: after)) {other : Placed}
    (member : other ∈ before ∨ other ∈ after) : other.Apart block := by
  have pairwise := books.separate
  simp only [List.pairwise_append, List.pairwise_cons, List.mem_cons] at pairwise
  rcases member with inFront | behind
  · exact pairwise.2.2 other inFront block (.inl rfl)
  · exact Or.symm (pairwise.2.1.1 other behind)

/-- Marking a block freed where it is, under a backend that stamps every block as before and
counts the block out, keeps the books with the block freed. -/
theorem marked (books : Books allocator (before ++ block :: after)) {header : Header}
    (stamp : block.stampedBy allocator.backend = header) {backend : Backend}
    (sameStamps : ∀ other : Placed, other.stampedBy backend = other.stampedBy allocator.backend)
    (counted : Counted backend (before ++ block.freed :: after)) :
    Books { allocator with space := Allocator.marked header block.payload allocator.settings.debugMemset allocator.space,
                           backend } (before ++ block.freed :: after) := by
  subst stamp
  have member : block ∈ before ++ block :: after := by simp
  have laid := books.laid block member
  refine ⟨books.apart.marked _ _ _, ?_, ?_, pairwise_freed books.separate, ?_, counted⟩
  · simp only [Allocator.nextBase_marked]
    exact books.aligned
  · intro other otherMember
    rcases mem_freed_iff.mp otherMember with inFront | rfl | behind
    · exact books.laid other (by simp [inFront])
    · exact laid.freed
    · exact books.laid other (by simp [behind])
  · have lengthOf : (block.stampedBy allocator.backend).length.toNat = block.entry.length := by
      rw [Placed.stampedBy_length, laid.length]
    intro other otherMember
    rw [sameStamps]
    rcases mem_freed_iff.mp otherMember with inFront | rfl | behind
    · exact (books.stored other (by simp [inFront])).marked_of_apart books.apart (books.laid other (by simp [inFront]))
        laid (books.apart_of_mem (.inl inFront)) (Placed.stampedBy_tailOffset _ _) lengthOf _
    · exact (books.stored block member).marked_self books.apart laid (Placed.stampedBy_tailOffset _ _) _
    · exact (books.stored other (by simp [behind])).marked_of_apart books.apart (books.laid other (by simp [behind]))
        laid (books.apart_of_mem (.inr behind)) (Placed.stampedBy_tailOffset _ _) lengthOf _

/-- Freeing a live frame keeps the books, with the block freed. -/
theorem free (books : Books allocator (before ++ block :: after)) (live : block.live = true)
    (frame : block.header.isFrame = true) :
    Books (allocator.freedPlaced block) (before ++ block.freed :: after) := by
  have member : block ∈ before ++ block :: after := by simp
  have laid := books.laid block member
  have fewer : (liveSlots (before ++ block.freed :: after)).length + 1 = (liveSlots (before ++ block :: after)).length :=
    length_liveSlots_freed live
  have fewerBytes : liveBytes (before ++ block.freed :: after) + block.entry.length =
    liveBytes (before ++ block :: after) := liveBytes_freed live
  unfold Allocator.freedPlaced
  rcases backend : allocator.backend with counters | tracker
  · -- the counting backend counts the block out
    obtain ⟨blocks, bytes⟩ := books.counters_eq backend
    dsimp only
    unfold countedFree
    rw [retired_of_isFrame frame]
    refine books.marked (by rw [backend]; rfl) (fun other => by rw [backend]; rfl) ⟨?_, ?_⟩
    · rw [blocks, ← fewer]
      push_cast
      omega
    · rw [bytes, laid.length, ← fewerBytes]
      push_cast
      omega
  · -- the tracking backend takes the block out of its table
    have tabled := books.tabled backend
    have chained := Twins.slot_mem member live
    dsimp only
    unfold trackedFree
    rw [retired_of_isFrame (show block.trackedHeader.isFrame = true from frame)]
    refine books.marked (by rw [backend]; rfl) (fun other => by rw [backend]; rfl) ⟨?_, ?_, ?_, ?_, ?_⟩
    · dsimp only
      rw [tabled.blocks, ← fewer]
      omega
    · dsimp only
      rw [tabled.bytes, Placed.trackedHeader_length, laid.length, ← fewerBytes]
      omega
    · rw [liveSlots_freed live tabled.table.nodup]
      exact tabled.table.remove (books.slotOf_live backend member live)
    · intro other otherMember otherLive
      rcases mem_freed_iff.mp otherMember with inFront | rfl | behind
      · rw [Memlist.remove_entryAt? _ _ _ (tabled.slot_ne live (.inl inFront) otherLive)]
        exact tabled.entries other (by simp [inFront]) otherLive
      · cases otherLive
      · rw [Memlist.remove_entryAt? _ _ _ (tabled.slot_ne live (.inr behind) otherLive)]
        exact tabled.entries other (by simp [behind]) otherLive
    · exact (Memlist.unlink_size _ _).trans_lt tabled.slots

theorem journal_freedPlaced (block : Placed) : (allocator.freedPlaced block).journal = allocator.journal := by
  unfold Allocator.freedPlaced
  split <;> simp only [countedFree, trackedFree, journal_retired]

theorem leakRan_freedPlaced (block : Placed) : (allocator.freedPlaced block).leakRan = allocator.leakRan := by
  unfold Allocator.freedPlaced
  split <;> simp only [countedFree, trackedFree, leakRan_retired]

/-- Freeing a live block takes one block and its bytes off the usage, as machine words. -/
theorem usage_freedPlaced (books : Books allocator (before ++ block :: after)) (live : block.live = true) :
    ((allocator.freedPlaced block).usage.inUse + block.entry.length) % 2 ^ 64 = allocator.usage.inUse % 2 ^ 64 ∧
      ((allocator.freedPlaced block).usage.blocks + 1) % 2 ^ 64 = allocator.usage.blocks % 2 ^ 64 := by
  have member : block ∈ before ++ block :: after := by simp
  have laid := books.laid block member
  have fewer : (liveSlots (before ++ block.freed :: after)).length + 1 = (liveSlots (before ++ block :: after)).length :=
    length_liveSlots_freed live
  have fewerBytes : liveBytes (before ++ block.freed :: after) + block.entry.length =
    liveBytes (before ++ block :: after) := liveBytes_freed live
  unfold Allocator.freedPlaced usage
  rcases backend : allocator.backend with counters | tracker
  · -- the counters are signed words that drop
    simp only [countedFree, backend_retired, laid.length]
    exact ⟨unsignedWord_sub_add _ _, unsignedWord_sub_add _ 1⟩
  · -- the tracker's counts cover the block
    have tabled := books.tabled backend
    simp only [trackedFree, backend_retired, Placed.trackedHeader_length, laid.length]
    rw [tabled.blocks, tabled.bytes]
    omega

end Free

end Books

end HeapKit.Memory
