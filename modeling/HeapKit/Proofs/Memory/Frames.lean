import HeapKit.Proofs.Memory.Books
import HeapKit.Proofs.Memory.Layout

/-!
# Frames on an allocator with books

What the typed API does to an allocator whose books hold (`Books`). A frame is allocated above
every placed block and enrolled, so the books hold with it placed last. A free of a placed block
reads the header or the table the books describe: a live block passes every check and is freed,
and a freed one is a double free that changes no count. The kind check comes last, so a byte
free of a live frame still frees it, unless the abort policy stops at the report.

Only a finalizer adds to the record of finalized identifiers. `RunsNoFinalizer` says an
operation leaves that record as it found it; the lemmas follow the structure of the programs, and
every allocation and every free is such an operation. A finalizer records the identifier it
reads (`identifierAt`), and reading changes nothing, so finalizing the elements of an array in a
row records the identifiers at their addresses in order.
-/

namespace HeapKit.Memory

open HeapKit.Endian

namespace Allocator

/-! ### Operations that run no finalizer -/

/-- An operation that leaves the record of finalized identifiers as it found it. -/
def RunsNoFinalizer {α : Type} (operation : AllocM α) : Prop :=
  ∀ allocator, (operation.run.run allocator).2.journal.finalized = allocator.journal.finalized

section Rules

variable {α β : Type}

theorem runsNoFinalizer_pure (value : α) : RunsNoFinalizer (pure value : AllocM α) := fun _ => rfl

theorem runsNoFinalizer_throw (fault : Fault) : RunsNoFinalizer (throw fault : AllocM α) := fun _ => rfl

theorem RunsNoFinalizer.bind {first : AllocM α} {rest : α → AllocM β} (firstKeeps : RunsNoFinalizer first)
    (restKeeps : ∀ value, RunsNoFinalizer (rest value)) : RunsNoFinalizer (first >>= rest) := by
  intro allocator
  rw [run_bind]
  have kept := firstKeeps allocator
  rcases running : first.run.run allocator with ⟨_ | value, next⟩ <;> rw [running] at kept
  · exact kept
  · exact (restKeeps value next).trans kept

theorem runsNoFinalizer_get_bind {rest : Allocator → AllocM α} (restKeeps : ∀ allocator, RunsNoFinalizer (rest allocator)) :
    RunsNoFinalizer (get >>= rest) :=
  fun allocator => restKeeps allocator allocator

theorem runsNoFinalizer_modify {update : Allocator → Allocator}
    (keeps : ∀ allocator, (update allocator).journal.finalized = allocator.journal.finalized) :
    RunsNoFinalizer (modify update) :=
  keeps

theorem RunsNoFinalizer.ite {condition : Prop} [Decidable condition] {yes no : AllocM α}
    (yesKeeps : condition → RunsNoFinalizer yes) (noKeeps : ¬condition → RunsNoFinalizer no) :
    RunsNoFinalizer (if condition then yes else no) := by
  split
  · exact yesKeeps ‹_›
  · exact noKeeps ‹_›

/-- A step taken only under a condition, then the same rest either way. -/
theorem runsNoFinalizer_ite_then {condition : Prop} [Decidable condition] {first : AllocM PUnit}
    {rest : PUnit → AllocM α} (firstKeeps : RunsNoFinalizer first) (restKeeps : ∀ value, RunsNoFinalizer (rest value)) :
    RunsNoFinalizer (if condition then first >>= rest else rest ⟨⟩) :=
  .ite (fun _ => firstKeeps.bind restKeeps) (fun _ => restKeeps ⟨⟩)

theorem runsNoFinalizer_forIn {γ : Type} (items : List γ) (body : γ → PUnit → AllocM (ForInStep PUnit))
    (each : ∀ item current, RunsNoFinalizer (body item current)) (current : PUnit) :
    RunsNoFinalizer (forIn items current body) := by
  induction items generalizing current with
  | nil => exact runsNoFinalizer_pure current
  | cons item rest inductionHypothesis =>
    rw [List.forIn_cons]
    refine (each item current).bind fun step => ?_
    cases step with
    | done => exact runsNoFinalizer_pure _
    | yield next => exact inductionHypothesis next

end Rules

/-! ### Reports, memory and sources -/

theorem runsNoFinalizer_deliver (level : Level) (message : String) (fields : List (String × String)) :
    RunsNoFinalizer (deliver level message fields) :=
  fun _ => rfl

theorem runsNoFinalizer_blockError (reason block message : String) :
    RunsNoFinalizer (blockError reason block message) := by
  unfold blockError
  refine (runsNoFinalizer_deliver _ _ _).bind fun _ => (runsNoFinalizer_modify fun _ => by rfl).bind fun _ => ?_
  exact runsNoFinalizer_get_bind fun _ => .ite (fun _ => runsNoFinalizer_throw _) (fun _ => runsNoFinalizer_pure _)

theorem runsNoFinalizer_writeBytes (address : Nat) (bytes : List UInt8) :
    RunsNoFinalizer (writeBytes address bytes) :=
  fun _ => rfl

theorem runsNoFinalizer_loadHeader (payload : Nat) : RunsNoFinalizer (loadHeader payload) := fun _ => rfl

theorem runsNoFinalizer_loadTail (payload offset : Nat) : RunsNoFinalizer (loadTail payload offset) := fun _ => rfl

theorem runsNoFinalizer_reserveArea (size : Nat) : RunsNoFinalizer (reserveArea size) := fun _ => rfl

theorem runsNoFinalizer_sourceRelease (base total : Nat) : RunsNoFinalizer (sourceRelease base total) := by
  intro allocator
  rw [sourceRelease_run]
  unfold released
  split <;> rfl

theorem runsNoFinalizer_retire (header : Header) (payload : Nat) : RunsNoFinalizer (retire header payload) := by
  unfold retire
  refine runsNoFinalizer_get_bind fun _ => runsNoFinalizer_ite_then (runsNoFinalizer_modify fun _ => by rfl) fun _ => ?_
  refine (runsNoFinalizer_writeBytes _ _).bind fun _ => (runsNoFinalizer_writeBytes _ _).bind fun _ => ?_
  exact .ite (fun _ => runsNoFinalizer_sourceRelease _ _) (fun _ => runsNoFinalizer_pure _)

/-! ### Frees -/

theorem runsNoFinalizer_precheck (address : Option Nat) : RunsNoFinalizer (precheck address) := by
  unfold precheck
  refine runsNoFinalizer_get_bind fun _ => runsNoFinalizer_ite_then (runsNoFinalizer_deliver _ _ _) fun _ => ?_
  split
  · exact (runsNoFinalizer_blockError _ _ _).bind fun _ => runsNoFinalizer_pure _
  · exact .ite (fun _ => (runsNoFinalizer_blockError _ _ _).bind fun _ => runsNoFinalizer_pure _)
      (fun _ => runsNoFinalizer_pure _)

theorem runsNoFinalizer_checkKind (header : Header) (expected : BlockKind) (block : String) :
    RunsNoFinalizer (checkKind header expected block) := by
  unfold checkKind
  refine .ite (fun _ => runsNoFinalizer_pure _) (fun _ => ?_)
  split
  · exact (runsNoFinalizer_blockError _ _ _).bind fun _ => runsNoFinalizer_pure _
  · exact (runsNoFinalizer_blockError _ _ _).bind fun _ => runsNoFinalizer_pure _

theorem runsNoFinalizer_freeCounted (counters : Counters) (payload : Nat) (kind : BlockKind) :
    RunsNoFinalizer (freeCounted counters payload kind) := by
  unfold freeCounted
  refine (runsNoFinalizer_loadHeader _).bind fun header => ?_
  refine .ite (fun _ => (runsNoFinalizer_blockError _ _ _).bind fun _ => runsNoFinalizer_pure _) (fun _ => ?_)
  refine .ite (fun _ => (runsNoFinalizer_blockError _ _ _).bind fun _ => runsNoFinalizer_pure _) (fun _ => ?_)
  refine (runsNoFinalizer_checkKind _ _ _).bind fun _ => (runsNoFinalizer_modify fun _ => by rfl).bind fun _ => ?_
  exact (runsNoFinalizer_retire _ _).bind fun _ => runsNoFinalizer_pure _

theorem runsNoFinalizer_checkMemlist (list : Memlist) (skip : Nat) :
    RunsNoFinalizer (checkMemlist list skip) := by
  unfold checkMemlist
  refine (runsNoFinalizer_forIn _ _ (fun slot _ => ?_) _).bind fun _ => runsNoFinalizer_pure _
  refine .ite (fun _ => (runsNoFinalizer_loadHeader _).bind fun header => ?_) (fun _ => runsNoFinalizer_pure _)
  refine .ite (fun _ => (runsNoFinalizer_blockError _ _ _).bind fun _ => runsNoFinalizer_pure _) (fun _ => ?_)
  refine (runsNoFinalizer_loadTail _ _).bind fun _ => ?_
  exact .ite (fun _ => (runsNoFinalizer_blockError _ _ _).bind fun _ => runsNoFinalizer_pure _)
    (fun _ => runsNoFinalizer_pure _)

theorem runsNoFinalizer_freeTracked (tracker : Tracker) (payload : Nat) (kind : BlockKind) :
    RunsNoFinalizer (freeTracked tracker payload kind) := by
  unfold freeTracked
  split
  · split
    · split
      refine (runsNoFinalizer_modify fun _ => by rfl).bind fun _ => ?_
      split
      · exact (runsNoFinalizer_blockError _ _ _).bind fun _ => runsNoFinalizer_pure _
      · exact (runsNoFinalizer_blockError _ _ _).bind fun _ => runsNoFinalizer_pure _
    · exact (runsNoFinalizer_blockError _ _ _).bind fun _ => runsNoFinalizer_pure _
  · refine (runsNoFinalizer_loadHeader _).bind fun header => ?_
    refine .ite (fun _ => (runsNoFinalizer_blockError _ _ _).bind fun _ =>
      (runsNoFinalizer_checkMemlist _ _).bind fun _ => runsNoFinalizer_pure _) (fun _ => ?_)
    refine (runsNoFinalizer_loadTail _ _).bind fun _ => ?_
    refine .ite (fun _ => (runsNoFinalizer_blockError _ _ _).bind fun _ =>
      (runsNoFinalizer_checkMemlist _ _).bind fun _ => runsNoFinalizer_pure _) (fun _ => ?_)
    refine (runsNoFinalizer_checkKind _ _ _).bind fun _ => (runsNoFinalizer_modify fun _ => by rfl).bind fun _ => ?_
    exact (runsNoFinalizer_retire _ _).bind fun _ => runsNoFinalizer_pure _

/-- A free runs no finalizer, whatever it finds. -/
theorem runsNoFinalizer_free (block : Block) (kind : BlockKind) : RunsNoFinalizer (free block kind) := by
  unfold free
  refine (runsNoFinalizer_precheck _).bind fun checked => ?_
  split
  · exact runsNoFinalizer_pure _
  · refine runsNoFinalizer_get_bind fun _ => ?_
    split
    · exact runsNoFinalizer_freeCounted _ _ _
    · exact runsNoFinalizer_freeTracked _ _ _

/-! ### Frame allocations -/

theorem runsNoFinalizer_checkLimit (length : Nat) : RunsNoFinalizer (checkLimit length) :=
  runsNoFinalizer_get_bind fun _ => .ite (fun _ => runsNoFinalizer_pure _) (fun _ => runsNoFinalizer_pure _)

theorem runsNoFinalizer_frameRegion (element : ElementType) (count : Int) :
    RunsNoFinalizer (frameRegion element count) := by
  unfold frameRegion
  refine .ite (fun _ => runsNoFinalizer_pure _) (fun _ => .ite (fun _ => runsNoFinalizer_pure _) (fun _ => ?_))
  refine (runsNoFinalizer_checkLimit _).bind fun limited => ?_
  split
  · exact runsNoFinalizer_pure _
  · exact (runsNoFinalizer_reserveArea _).bind fun _ => runsNoFinalizer_pure _

theorem runsNoFinalizer_enroll (region : Region) (request : Request) : RunsNoFinalizer (enroll region request) := by
  intro allocator
  rw [enroll_run]
  unfold enrolled
  split <;> rfl

theorem runsNoFinalizer_allocateFrame (element : ElementType) (count : Int) (tag : String) :
    RunsNoFinalizer (allocateFrame element count tag) := by
  unfold allocateFrame
  refine runsNoFinalizer_get_bind fun _ => (runsNoFinalizer_frameRegion _ _).bind fun framed => ?_
  split
  · exact (runsNoFinalizer_blockError _ _ _).bind fun _ => runsNoFinalizer_pure _
  · exact (runsNoFinalizer_enroll _ _).bind fun _ => runsNoFinalizer_pure _

theorem runsNoFinalizer_construct (element : ElementType) (value : List UInt8) (tag : String) :
    RunsNoFinalizer (construct element value tag) := by
  unfold construct
  refine (runsNoFinalizer_allocateFrame _ _ _).bind fun framed => ?_
  split
  · exact runsNoFinalizer_pure _
  · exact (runsNoFinalizer_writeBytes _ _).bind fun _ => runsNoFinalizer_pure _

theorem runsNoFinalizer_newArray (element : ElementType) (count : Int) (tag : String) :
    RunsNoFinalizer (newArray element count tag) :=
  .ite (fun _ => runsNoFinalizer_pure _) (fun _ => runsNoFinalizer_allocateFrame _ _ _)

/-! ### Finalizers -/

/-- The identifier the finalizer of a value finds at an address: the 64-bit word there, read as
a signed integer. -/
def identifierAt (space : Space) (address : Nat) : Int :=
  let word := readLE 8 (space.readOrZero address 8)
  if word < Nat.pow 2 63 then word else (word : Int) - Int.pow 2 64

/-- The allocator after finalizers recorded identifiers. -/
def recordFinalized (identifiers : List Int) (allocator : Allocator) : Allocator :=
  { allocator with journal := { allocator.journal with
      finalized := allocator.journal.finalized ++ identifiers } }

theorem finalize_run (address : Nat) (allocator : Allocator) :
    (finalize address).run.run allocator =
      (.ok (), recordFinalized [identifierAt allocator.space address] allocator) := by
  unfold finalize recordFinalized
  simp only [run_bind, readBytes, run_get, run_pure, run_modify]
  rfl

@[simp] theorem space_recordFinalized (identifiers : List Int) (allocator : Allocator) :
    (recordFinalized identifiers allocator).space = allocator.space := rfl

@[simp] theorem core_recordFinalized (identifiers : List Int) (allocator : Allocator) :
    (recordFinalized identifiers allocator).core = allocator.core := rfl

theorem recordFinalized_append (first second : List Int) (allocator : Allocator) :
    recordFinalized second (recordFinalized first allocator) = recordFinalized (first ++ second) allocator := by
  have associative : allocator.journal.finalized ++ first ++ second =
      allocator.journal.finalized ++ (first ++ second) := Array.ext' (by simp)
  simp only [recordFinalized, associative]

/-- Finalizing the elements of an array in a row records the identifiers at their addresses, in
order: a finalizer only reads memory. -/
theorem finalizeEach_run (base size : Nat) (indices : List Nat) (allocator : Allocator) :
    (forIn indices PUnit.unit fun index _ =>
        finalize (base + index * size) >>= fun _ => pure (ForInStep.yield PUnit.unit)).run.run allocator =
      (.ok PUnit.unit,
        recordFinalized (indices.map fun index => identifierAt allocator.space (base + index * size)) allocator) := by
  induction indices generalizing allocator with
  | nil =>
    simp only [List.forIn_nil, run_pure, List.map_nil]
    congr 1
  | cons index rest inductionHypothesis =>
    rw [List.forIn_cons, run_bind, run_bind, finalize_run]
    simp only [run_pure]
    rw [inductionHypothesis, space_recordFinalized, recordFinalized_append, List.map_cons, List.singleton_append]

end Allocator

end HeapKit.Memory

namespace HeapKit.Memory

open HeapKit.Endian Allocator

theorem Allocator.usage_eq_of_core {allocator next : Allocator} (kept : next.core = allocator.core) :
    next.usage = allocator.usage := by
  unfold usage
  rw [backend_eq_of_core kept]

theorem Allocator.leakRan_eq_of_core {allocator next : Allocator} (kept : next.core = allocator.core) :
    next.leakRan = allocator.leakRan := by
  have sameLeakRan := congrArg Allocator.leakRan kept
  exact sameLeakRan

/-- A placed frame for `count` elements of a type: a typed block in a frame, as long as its
elements rounded up to whole words of four bytes. -/
structure Frames (block : Placed) (element : ElementType) (count : Nat) : Prop where
  framed : block.header.isFrame = true
  typed : block.header.kind = BlockKind.typed.code
  length : block.entry.length = roundLength (element.size * count)

/-- A block placed in a frame region is stamped as a frame. -/
theorem ofRegion_frame_isFrame (element : ElementType) (count base : Nat) (request : Request) (slot : Nat) :
    (Placed.ofRegion (frameRegionAt element count base) request slot).header.isFrame = true := by
  show ((if true = true then Header.frameFlag else 0) &&& Header.frameFlag != 0) = true
  decide

theorem Frames.freed {block : Placed} {element : ElementType} {count : Nat} (frames : Frames block element count) :
    Frames block.freed element count :=
  ⟨frames.framed, frames.typed, frames.length⟩

/-- A release that answers one of a list of conditions, or stops, does not succeed. -/
theorem Answers.ne_ok_none {conditions : List Condition} {result : Except Fault (Option MemError)}
    (answers : Answers conditions result) : result ≠ .ok none := by
  rintro rfl
  rcases answers with ⟨_, _, returned⟩ | ⟨_, stopped⟩
  · cases returned
  · cases stopped

/-- The checks a free starts with pass a word-aligned address before the leak check has run,
changing nothing. -/
theorem precheck_aligned {allocator : Allocator} (unchecked : allocator.leakRan = false) {payload : Nat}
    (aligned : payload % minimumAlignment = 0) :
    (precheck (some payload)).run.run allocator = (.ok none, allocator) := by
  unfold precheck
  simp only [run_bind, run_get, unchecked, Bool.false_eq_true, if_false, aligned, bne_self_eq_false, run_pure]

theorem checkKind_of_kind {header : Header} {expected : BlockKind} (same : header.kind = expected.code)
    (name : String) (allocator : Allocator) :
    (checkKind header expected name).run.run allocator = (.ok none, allocator) := by
  unfold checkKind
  rw [if_pos (by simpa using same)]
  rfl

namespace Placed

theorem current_of_live {block : Placed} (live : block.live = true) (header : Header) :
    block.current header = header := by
  unfold current
  rw [if_pos live]

theorem current_of_freed {block : Placed} (freed : block.live = false) (header : Header) :
    block.current header = header.markFreed := by
  unfold current
  rw [if_neg (by simp [freed])]

theorem freed_of_freed {block : Placed} (freed : block.live = false) : block.freed = block := by
  cases block
  simp_all [Placed.freed]

theorem tailTag_of_live {block : Placed} (live : block.live = true) : block.tailTag = liveTailTag := by
  unfold tailTag
  rw [if_pos live]

end Placed

/-- A live block's slot, one up, fits the header: the table has fewer than `2 ^ 32` slots. -/
theorem Tabled.slot_lt {tracker : Tracker} {placed : List Placed} (tabled : Tabled tracker placed)
    {block : Placed} (member : block ∈ placed) (live : block.live = true) : block.slot + 1 < 2 ^ 32 := by
  have := tabled.table.lt_size (List.mem_append_left _ (Twins.slot_mem member live))
  have := tabled.slots
  omega

/-- The slot a live block's tracked header carries is its table slot, one up. -/
theorem Tabled.trackedHeader_slot {tracker : Tracker} {placed : List Placed} (tabled : Tabled tracker placed)
    {block : Placed} (member : block ∈ placed) (live : block.live = true) :
    block.trackedHeader.slot.toNat = block.slot + 1 :=
  UInt32.toNat_ofNat_of_lt' (tabled.slot_lt member live)

namespace Books

variable {allocator : Allocator} {placed : List Placed} {block : Placed}

/-! ### The blocks a free leaves -/

section Placing

variable {before after : List Placed}

/-- Marking the block at a payload freed marks exactly that block. -/
theorem freeAt_eq (books : Books allocator (before ++ block :: after)) :
    freeAt block.payload (before ++ block :: after) = before ++ block.freed :: after := by
  have laid := books.laid block (by simp)
  have keeps : ∀ other, (other ∈ before ∨ other ∈ after) →
      (if other.payload = block.payload then other.freed else other) = other := fun other member =>
    if_neg ((books.laid other (by rcases member with inFront | behind <;> simp [*])).payload_ne
      laid (books.apart_of_mem member))
  unfold freeAt
  rw [List.map_append, List.map_cons, if_pos rfl,
    List.map_congr_left (fun other member => keeps other (.inl member)),
    List.map_congr_left (fun other member => keeps other (.inr member)), List.map_id', List.map_id']

/-- Marking a freed block freed changes nothing. -/
theorem freeAt_of_freed (books : Books allocator placed) (member : block ∈ placed) (freed : block.live = false) :
    freeAt block.payload placed = placed := by
  unfold freeAt
  conv_rhs => rw [← List.map_id placed]
  refine List.map_congr_left fun other otherMember => ?_
  split
  · rename_i same
    rw [books.eq_of_payload otherMember member same, Placed.freed_of_freed freed]
    rfl
  · rfl

end Placing

/-! ### Frees of placed blocks -/

/-- The tracking backend's lookup of an untracked address keeps the books. -/
theorem lookedUp (books : Books allocator placed) {tracker : Tracker} (backend : allocator.backend = .guarded tracker)
    (payload : Nat) : Books (Allocator.lookedUp tracker payload allocator) placed := by
  unfold Allocator.lookedUp
  split
  · have tabled := books.tabled backend
    refine ⟨books.apart, books.aligned, books.laid, books.separate, ?_, ?_⟩
    · intro other member
      have stored := books.stored other member
      rw [backend] at stored
      exact stored
    · exact ⟨tabled.blocks, tabled.bytes, tabled.table, tabled.entries, tabled.slots⟩
  · exact books

theorem usage_lookedUp {tracker : Tracker} (backend : allocator.backend = .guarded tracker) (payload : Nat) :
    (Allocator.lookedUp tracker payload allocator).usage = allocator.usage := by
  unfold Allocator.lookedUp
  split
  · simp only [usage, backend]
  · rfl

/-- A free of a placed payload before the leak check passes its first checks: it is the free of
the allocator's backend. -/
theorem free_placed (books : Books allocator placed) (member : block ∈ placed)
    (unchecked : allocator.leakRan = false) (kind : BlockKind) (length : Int) :
    (Allocator.free ⟨some block.payload, length⟩ kind).run.run allocator =
      (match allocator.backend with
        | .lockfree counters => freeCounted counters block.payload kind
        | .guarded tracker => freeTracked tracker block.payload kind).run.run allocator := by
  unfold Allocator.free
  rw [run_bind, precheck_aligned unchecked (books.laid block member).aligned]
  rcases backend : allocator.backend with counters | tracker <;>
    simp only [run_bind, run_get, Option.getD_some, backend]

/-- A free, through the API of its kind, of a live placed block passes every check and frees the
block, answering no error. -/
theorem free_live {before after : List Placed} (books : Books allocator (before ++ block :: after))
    (live : block.live = true) (unchecked : allocator.leakRan = false) {kind : BlockKind}
    (sameKind : block.header.kind = kind.code) (length : Int) :
    (Allocator.free ⟨some block.payload, length⟩ kind).run.run allocator = (.ok none, allocator.freedPlaced block) := by
  have member : block ∈ before ++ block :: after := by simp
  have laid := books.laid block member
  have header := books.header_read member
  rw [books.free_placed member unchecked]
  unfold freedPlaced
  rcases backend : allocator.backend with counters | tracker
  · -- the counting backend finds the live header
    unfold freeCounted
    rw [backend] at header
    simp only [run_bind, loadHeader_run, header, Placed.current_of_live live, Placed.stampedBy,
      Header.isFreed_of_isValid laid.valid, laid.valid, Bool.not_true, Bool.false_eq_true, if_false,
      checkKind_of_kind sameKind, run_modify, retire_run, run_pure]
    rfl
  · -- the tracking backend finds the block in its slot, with the header and tail it stamped
    unfold freeTracked
    rw [backend] at header
    have tabled := books.tabled backend
    have entry := tabled.entries block member live
    have tail := books.tail_read member
    simp only [books.slotOf_live backend member live, run_bind, loadHeader_run, header, Placed.current_of_live live,
      Placed.stampedBy, entry, Option.getD_some, Placed.trackedHeader_isValid, laid.valid,
      tabled.trackedHeader_slot member live, Placed.trackedHeader_length, laid.length, bne_self_eq_false,
      Bool.not_true, Bool.or_false, Bool.false_eq_true, if_false, loadTail_run, Placed.trackedHeader_tailOffset,
      tail, Placed.tailTag_of_live live,
      checkKind_of_kind (show block.trackedHeader.kind = kind.code from sameKind), run_modify, retire_run,
      run_pure, trackedFree]

/-- A free of a freed placed block is a double free on either backend: it does not succeed, keeps
the books and changes no count. -/
theorem free_freed (books : Books allocator placed) (member : block ∈ placed) (freed : block.live = false)
    (unchecked : allocator.leakRan = false) {kind : BlockKind} {length : Int}
    {result : Except Fault (Option MemError)} {next : Allocator}
    (run : (Allocator.free ⟨some block.payload, length⟩ kind).run.run allocator = (result, next)) :
    result ≠ .ok none ∧ Books next placed ∧ next.usage = allocator.usage ∧ next.leakRan = false := by
  have header := books.header_read member
  rw [Placed.current_of_freed freed] at header
  rw [books.free_placed member unchecked] at run
  rcases backend : allocator.backend with counters | tracker <;> rw [backend] at run
  · -- the counting backend reads the freed tags
    rcases freeCounted_cases run with ⟨-, answers, kept⟩ | ⟨notFreed, -⟩ | ⟨valid, -⟩ | ⟨valid, -⟩
    · exact ⟨Answers.ne_ok_none answers, books.of_core kept, usage_eq_of_core kept,
        (leakRan_eq_of_core kept).trans unchecked⟩
    · simp [header] at notFreed
    · simp [header] at valid
    · simp [header] at valid
  · -- the tracking backend does not find it, and may look its history up
    rcases freeTracked_cases run with ⟨-, answers, kept⟩ | ⟨slot, found, -⟩
    · exact ⟨Answers.ne_ok_none answers, (books.lookedUp backend block.payload).of_core kept,
        by rw [usage_eq_of_core kept, usage_lookedUp backend],
        by rw [leakRan_eq_of_core kept]; unfold Allocator.lookedUp; split <;> exact unchecked⟩
    · rw [books.slotOf_freed backend member freed] at found
      cases found

/-- A free of a live placed block through the other API reports the kind mismatch and still frees
the block, or stops at the report under the abort policy, before it changes anything. -/
theorem free_live_mismatch {before after : List Placed} (books : Books allocator (before ++ block :: after))
    (live : block.live = true) (unchecked : allocator.leakRan = false) {kind : BlockKind}
    (differs : block.header.kind ≠ kind.code) {length : Int} {result : Except Fault (Option MemError)}
    {next : Allocator} (run : (Allocator.free ⟨some block.payload, length⟩ kind).run.run allocator = (result, next)) :
    ((∃ fault, result = .error fault) ∧ next.core = allocator.core) ∨
      (result = .ok (some (.of .kindMismatch)) ∧
        ∃ middle : Allocator, middle.core = allocator.core ∧ next = middle.freedPlaced block) := by
  have member : block ∈ before ++ block :: after := by simp
  have laid := books.laid block member
  have header := books.header_read member
  rw [Placed.current_of_live live] at header
  rw [books.free_placed member unchecked] at run
  rcases backend : allocator.backend with counters | tracker <;> rw [backend] at run header
  · -- the counting backend finds the live header, then the kind differs
    rcases freeCounted_cases run with ⟨isFreed, -⟩ | ⟨-, invalid, -⟩ | ⟨-, -, stopped, kept⟩ |
      ⟨-, answered, middle, middleCore, rfl⟩
    · simp [header, Placed.stampedBy, Header.isFreed_of_isValid laid.valid] at isFreed
    · simp [header, Placed.stampedBy, laid.valid] at invalid
    · exact .inl ⟨stopped, kept⟩
    · refine .inr ⟨by simp [answered, header, Placed.stampedBy, differs], middle, middleCore, ?_⟩
      unfold freedPlaced
      rw [backend_eq_of_core middleCore, backend]
      simp only [header, Placed.stampedBy]
  · -- the tracking backend finds the block in its slot with the header and tail it stamped
    have tabled := books.tabled backend
    have tail := books.tail_read member
    have fits : (block.trackedHeader).fitsEntry block.slot ((tracker.list.entryAt? block.slot).getD default) = true := by
      simp [Header.fitsEntry, tabled.entries block member live, laid.valid, tabled.trackedHeader_slot member live,
        laid.length]
    rcases freeTracked_cases run with ⟨untracked, -⟩ | ⟨slot, found, rest⟩
    · rw [books.slotOf_live backend member live] at untracked
      cases untracked
    · rw [books.slotOf_live backend member live, Option.some.injEq] at found
      subst found
      simp only [header, Placed.stampedBy] at rest
      rcases rest with ⟨unfit, -⟩ | ⟨-, torn, -⟩ | ⟨-, -, ⟨-, stopped, kept⟩ | ⟨answered, middle, middleCore, rfl⟩⟩
      · rw [fits] at unfit
        cases unfit
      · rw [Placed.trackedHeader_tailOffset, tail, Placed.tailTag_of_live live] at torn
        exact absurd rfl torn
      · exact .inl ⟨stopped, kept⟩
      · refine .inr ⟨by simp [answered, differs], middle, middleCore, ?_⟩
        unfold freedPlaced
        rw [backend_eq_of_core middleCore, backend]

/-- The nil block is never freed: the free does not succeed and changes only the reports. -/
theorem free_nil {kind : BlockKind} {length : Int} {result : Except Fault (Option MemError)} {next : Allocator}
    (run : (Allocator.free ⟨none, length⟩ kind).run.run allocator = (result, next)) :
    result ≠ .ok none ∧ next.core = allocator.core := by
  rcases free_cases run with ⟨answers, kept⟩ | ⟨_, _, absent, _⟩
  · exact ⟨Answers.ne_ok_none answers, kept⟩
  · cases absent

/-- A frame allocation that succeeds places a live frame above every placed block, at the payload
it hands out, and the books hold with the frame placed last. -/
theorem allocateFrame_placed (books : Books allocator placed) {element : ElementType}
    (valid : validAlignment (element.alignment : Int) = true) (room : (liveSlots placed).length + 1 < 2 ^ 32)
    {count : Int} {tag : String} {block : Block} {next : Allocator}
    (run : (allocateFrame element count tag).run.run allocator = (.ok (.ok block), next)) :
    ∃ frame, Books next (placed ++ [frame]) ∧ block.address = some frame.payload ∧ frame.live = true ∧
      Frames frame element count.toNat ∧ (∀ other ∈ placed, other.payload ≠ frame.payload) ∧ 0 ≤ count := by
  rcases allocateFrame_cases run with ⟨failed, -⟩ | ⟨nonnegative, small, answered, rfl⟩
  · exact absurd rfl (failed block)
  · set region := frameRegionAt element count.toNat allocator.space.nextBase
    set request := frameRequestOf element count.toNat tag
    have laid : (Placed.ofRegion region request 0).Laid := laid_frame valid small books.aligned
    have held : (allocator.space.reserve region.total).2.holds region.base region.total = true :=
      (Space.holds_iff_exists _ _ _).mpr
        ⟨_, Space.holds_reserved allocator.space region.total allocator.space.nextBase region.total ⟨le_rfl, le_rfl⟩⟩
    have below : region.base + region.total ≤ (allocator.space.reserve region.total).2.nextBase :=
      (Space.nextBase_lt_reserve _ _).le
    have above : ∀ other ∈ placed, other.base + other.total ≤ region.base := fun other member =>
      books.below_nextBase member
    refine ⟨_, (books.reserve region.total).enroll laid above held below room, ?_, rfl,
      ⟨ofRegion_frame_isFrame _ _ _ _ _, rfl, rfl⟩, fun other member same => ?_, nonnegative⟩
    · cases answered
      rfl
    · have := (books.laid other member).tailInside
      have := above other member
      have := laid.headerInside
      change other.payload = region.payload at same
      change region.base + headerSize ≤ region.payload at this
      omega

end Books

end HeapKit.Memory
