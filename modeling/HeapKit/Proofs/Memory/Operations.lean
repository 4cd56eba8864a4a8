import HeapKit.Proofs.Memory.Execution

/-!
# What each operation does

One lemma per operation of the allocator says, for every run of it, which way the run
went and the state it left. A request that is refused, for whatever reason, returns no
block and changes nothing but the reports (the run's `core` is the one it started
from). A request that is granted leaves a state that a plain function of the starting
state computes: `enrolled` for a new block, `countedFree` and `trackedFree` for a block
that is freed, `lookedUp` for a free that only consulted the history, and
`switchedToGuarded` for the switch of backends.

These functions are what the run invariants are proved about; the monadic code is
opened only here.
-/

namespace HeapKit.Memory

namespace Header

/-- The region a header says its block takes: where it starts and how large it is. -/
def regionBase (header : Header) (payload : Nat) : Nat := payload - header.offset.toNat

/-- The bytes of the region a header says its block takes. -/
def regionTotal (header : Header) : Nat :=
  header.offset.toNat + header.length.toNat + tailSize + header.slack.toNat


/-- Whether a header matches the entry of its slot: valid, naming the slot, and of the
entry's length. -/
def fitsEntry (header : Header) (slot : Nat) (entry : Entry) : Bool :=
  header.isValid && header.slot.toNat == slot + 1 && header.length.toNat == entry.length

end Header

namespace Allocator
open HeapKit.Endian

/-! ### Reads and reports -/

/-- An operation that changes nothing at all. -/
def Reads {α : Type} (operation : AllocM α) : Prop :=
  ∀ allocator, (operation.run.run allocator).2 = allocator

theorem Reads.run_eq {α : Type} {operation : AllocM α} (reads : Reads operation) (allocator : Allocator) :
    operation.run.run allocator = ((operation.run.run allocator).1, allocator) := by
  conv => lhs; rw [← Prod.eta (operation.run.run allocator), reads allocator]

theorem reads_checkStorage (size : Nat) : Reads (checkStorage size) := by
  intro allocator
  unfold checkStorage
  split <;> rfl

theorem reads_checkLimit (length : Nat) : Reads (checkLimit length) := by
  intro allocator
  simp only [checkLimit, run_bind, run_get]
  split <;> rfl

/-- Reporting and then returning an error never returns a success, and changes only
the reports. -/
theorem reported_error {α β γ : Type} {first : AllocM α} (reports : Reports first) (error : γ)
    {allocator next : Allocator} {result : Except Fault (Except γ β)}
    (run : (first >>= fun _ => pure (.error error)).run.run allocator = (result, next)) :
    (∀ value, result ≠ .ok (.ok value)) ∧ next.core = allocator.core := by
  have kept := @Reports.bind _ _ first (fun _ => (pure (.error error) : AllocM (Except γ β))) reports
    (fun _ => reports_pure _) allocator
  rw [run] at kept
  refine ⟨fun value returned => ?_, kept⟩
  rw [run_bind] at run
  rcases running : first.run.run allocator with ⟨_ | _, after⟩ <;> rw [running] at run <;>
    simp only [run_pure] at run <;> cases run <;> cases returned

/-! ### Byte blocks -/

/-- The request `rawRequest` makes of a size and an alignment that it accepts. -/
def rawRequestOf (size alignment : Int) (tag : String) (kind : BlockKind) (zeroed : Bool) : Request :=
  { size := size.toNat, length := roundLength size.toNat, alignment := max alignment.toNat minimumAlignment,
    tag, kind, zeroed }

theorem rawRequest_cases {size alignment : Int} {tag : String} {kind : BlockKind} {zeroed : Bool}
    {allocator next : Allocator} {result : Except Fault (Except MemError Request)}
    (run : (rawRequest size alignment tag kind zeroed).run.run allocator = (result, next)) :
    ((∀ request, result ≠ .ok (.ok request)) ∧ next.core = allocator.core) ∨
      (0 ≤ size ∧ validAlignment alignment = true ∧
        result = .ok (.ok (rawRequestOf size alignment tag kind zeroed)) ∧ next = allocator) := by
  unfold rawRequest at run
  split at run
  · exact .inl (reported_error (reports_blockError _ _ _) _ run)
  · split at run
    · exact .inl (reported_error (reports_blockError _ _ _) _ run)
    · rename_i nonnegative valid
      cases run
      exact .inr ⟨by omega, by simpa using valid, rfl, rfl⟩

/-- Where a source places `total` bytes, and the allocator it leaves, when it grants them. -/
def granted (total : Nat) (allocator : Allocator) : Nat × Allocator :=
  match allocator.source with
  | .chunk chunks =>
    let (address, chunks, space) := chunks.alloc total allocator.space
    (address.getD 0, { allocator with source := .chunk chunks, space })
  | _ =>
    let (base, space) := allocator.space.reserve total
    (base, { allocator with space })

theorem sourceAlloc_cases {total : Nat} {allocator next : Allocator} {result : Except Fault (Except MemError Nat)}
    (run : (sourceAlloc total).run.run allocator = (result, next)) :
    (result = .ok (.ok (granted total allocator).1) ∧ next = (granted total allocator).2) ∨
      ((∀ base, result ≠ .ok (.ok base)) ∧ next = allocator) := by
  unfold sourceAlloc granted at *
  rcases source : allocator.source with _ | chunks | _ <;>
    simp only [run_bind, run_get, source, reserveArea, run_set, run_pure] at run ⊢
  · rw [(reads_checkStorage total).run_eq] at run
    rcases checked : ((checkStorage total).run.run allocator).1 with fault | ⟨⟩ <;>
      simp only [checked] at run <;> cases run
    · exact .inr ⟨fun _ stopped => (nomatch stopped), rfl⟩
    · exact .inl ⟨rfl, by rw [← source]⟩
  · split at run
    · rw [run_bind, (reads_checkStorage total).run_eq] at run
      rcases checked : ((checkStorage total).run.run allocator).1 with fault | ⟨⟩ <;>
        simp only [checked, run_bind, run_get, run_set, run_pure] at run <;> cases run
      · exact .inr ⟨fun _ stopped => (nomatch stopped), rfl⟩
      · exact .inl ⟨rfl, rfl⟩
    · cases run
      exact .inl ⟨rfl, rfl⟩
  · split at run <;> cases run
    · exact .inr ⟨fun _ stopped => (nomatch stopped), rfl⟩
    · exact .inl ⟨rfl, by rw [← source]⟩

/-- The region of a byte block of a rounded length and an alignment, at the base its
source granted. -/
def rawRegionAt (length alignment base : Nat) : Region :=
  { base, total := headerSize + (alignment - minimumAlignment) + length + tailSize,
    payload := alignUp (base + headerSize) alignment, frame := false, tail := 0 }

theorem rawRegion_cases {length alignment : Nat} {allocator next : Allocator}
    {result : Except Fault (Except MemError Region)}
    (run : (rawRegion length alignment).run.run allocator = (result, next)) :
    ((∀ region, result ≠ .ok (.ok region)) ∧ next = allocator) ∨
      (length + headerSize + tailSize + (alignment - minimumAlignment) ≤ maxInt ∧
        result = .ok (.ok (rawRegionAt length alignment
          (granted (headerSize + (alignment - minimumAlignment) + length + tailSize) allocator).1)) ∧
        next = (granted (headerSize + (alignment - minimumAlignment) + length + tailSize) allocator).2) := by
  unfold rawRegion at run
  rw [run_bind, (reads_checkLimit length).run_eq] at run
  rcases checked : ((checkLimit length).run.run allocator).1 with fault | (refused | ⟨⟩) <;>
    simp only [checked] at run
  · cases run
    exact .inl ⟨fun _ stopped => (nomatch stopped), rfl⟩
  · cases run
    exact .inl ⟨fun _ stopped => (nomatch stopped), rfl⟩
  · split at run
    · cases run
      exact .inl ⟨fun _ stopped => (nomatch stopped), rfl⟩
    · rename_i fits
      rw [run_bind] at run
      rcases granting : (sourceAlloc (headerSize + (alignment - minimumAlignment) + length + tailSize)).run.run
          allocator with ⟨source, after⟩
      rcases sourceAlloc_cases granting with ⟨rfl, rfl⟩ | ⟨failed, rfl⟩
      · simp only [granting, run_pure] at run
        cases run
        exact .inr ⟨by omega, rfl, rfl⟩
      · left
        rcases source with fault | (refused | base)
        · simp only [granting] at run
          cases run
          exact ⟨fun _ stopped => (nomatch stopped), rfl⟩
        · simp only [granting, run_pure] at run
          cases run
          exact ⟨fun _ stopped => (nomatch stopped), rfl⟩
        · exact absurd rfl (failed base)

/-- The header a block is stamped with. -/
def stampHeader (region : Region) (request : Request) (slot : Nat) : Header :=
  { front := liveFrontTag, kind := request.kind.code,
    flags := if region.frame then Header.frameFlag else 0,
    alignment := request.alignment.toUInt16, length := request.length.toUInt64,
    slot := slot.toUInt32, offset := region.offset.toUInt32, back := liveBackTag,
    slack := (region.slack request.length).toUInt32 }

/-- The space with a block's header and tail written. -/
def stamped (region : Region) (request : Request) (slot : Nat) (space : Space) : Space :=
  (space.write (region.payload - headerSize) (stampHeader region request slot).encode).write
    (region.payload + (stampHeader region request slot).tailOffset) (bytesLE 4 liveTailTag.toNat)

theorem stamp_run (region : Region) (request : Request) (slot : Nat) (allocator : Allocator) :
    (stamp region request slot).run.run allocator =
      (.ok (), { allocator with space := stamped region request slot allocator.space }) :=
  rfl

/-- The allocator after a block is entered into the bookkeeping and stamped. -/
def enrolled (region : Region) (request : Request) (allocator : Allocator) : Allocator :=
  match allocator.backend with
  | .lockfree counters =>
    { allocator with
      space := stamped region request 0 allocator.space
      backend := .lockfree { blocks := counters.blocks + 1, bytes := counters.bytes + request.length,
                             peak := max counters.peak (counters.bytes + request.length) } }
  | .guarded tracker =>
    let entry : Entry :=
      { payload := region.payload, tag := request.tag, length := request.length, kind := request.kind,
        alignment := request.alignment }
    { allocator with
      space := stamped region request ((tracker.list.insert entry).1 + 1) allocator.space
      backend := .guarded
        { list := (tracker.list.insert entry).2,
          history := tracker.history.map (FreedHistory.remove region.payload),
          blocks := tracker.blocks + 1, bytes := tracker.bytes + request.length,
          peak := max tracker.peak (tracker.bytes + request.length) } }

theorem enroll_run (region : Region) (request : Request) (allocator : Allocator) :
    (enroll region request).run.run allocator = (.ok (), enrolled region request allocator) := by
  unfold enroll enrolled
  rcases backend : allocator.backend with counters | tracker <;>
    simp only [run_bind, run_get, backend, stamp_run, run_modify] <;> rfl

/-- A fresh byte block's payload before it is stamped: filled with `0xFF` under the
memset setting, unless it is to be zeroed. -/
def prefilled (region : Region) (request : Request) (allocator : Allocator) : Allocator :=
  if !request.zeroed && allocator.settings.debugMemset then
    { allocator with space := allocator.space.fill region.payload request.length 0xFF }
  else allocator

/-- The bytes a byte block of a request takes from its source. -/
def rawTotal (request : Request) : Nat :=
  headerSize + (request.alignment - minimumAlignment) + request.length + tailSize

/-- The region a request for a byte block gets from the allocator's source. -/
def rawPlacement (request : Request) (allocator : Allocator) : Region :=
  rawRegionAt request.length request.alignment (granted (rawTotal request) allocator).1

theorem allocateRaw_cases {size alignment : Int} {tag : String} {kind : BlockKind} {zeroed : Bool}
    {allocator next : Allocator} {result : Except Fault (Except MemError Block)}
    (run : (allocateRaw size alignment tag kind zeroed).run.run allocator = (result, next)) :
    ((∀ block, result ≠ .ok (.ok block)) ∧ next.core = allocator.core) ∨
      let request := rawRequestOf size alignment tag kind zeroed
      (0 ≤ size ∧ validAlignment alignment = true ∧
        request.length + headerSize + tailSize + (request.alignment - minimumAlignment) ≤ maxInt ∧
        result = .ok (.ok ⟨some (rawPlacement request allocator).payload, size⟩) ∧
        next = enrolled (rawPlacement request allocator) request
          (prefilled (rawPlacement request allocator) request (granted (rawTotal request) allocator).2)) := by
  unfold allocateRaw at run
  rw [run_bind] at run
  rcases requesting : (rawRequest size alignment tag kind zeroed).run.run allocator with ⟨asked, afterRequest⟩
  rw [requesting] at run
  rcases rawRequest_cases requesting with ⟨refused, kept⟩ | ⟨nonnegative, valid, rfl, rfl⟩
  · left
    rcases asked with fault | (error | request)
    · cases run
      exact ⟨fun _ stopped => (nomatch stopped), kept⟩
    · simp only [run_pure] at run
      cases run
      exact ⟨fun _ stopped => (nomatch stopped), kept⟩
    · exact absurd rfl (refused request)
  · simp only [run_bind, run_get] at run
    rcases placing : (rawRegion (rawRequestOf size alignment tag kind zeroed).length
        (rawRequestOf size alignment tag kind zeroed).alignment).run.run afterRequest with ⟨placed, afterRegion⟩
    rw [placing] at run
    rcases rawRegion_cases placing with ⟨failed, rfl⟩ | ⟨fits, rfl, rfl⟩
    · left
      rcases placed with fault | (error | region)
      · cases run
        exact ⟨fun _ stopped => (nomatch stopped), rfl⟩
      · exact reported_error (reports_blockError _ _ _) error run
      · exact absurd rfl (failed region)
    · right
      refine ⟨nonnegative, valid, fits, ?_⟩
      simp only [run_bind, run_get] at run
      unfold prefilled
      split at run <;> simp only [run_bind, run_modify, enroll_run, run_pure] at run <;> cases run
      · rename_i filling
        exact ⟨rfl, congrArg _ (if_pos filling).symm⟩
      · rename_i filling
        exact ⟨rfl, congrArg _ (if_neg filling).symm⟩

theorem arraySize_cases {count size : Int} {tag : String} {allocator next : Allocator}
    {result : Except Fault (Except MemError Int)}
    (run : (arraySize count size tag).run.run allocator = (result, next)) :
    ((∀ total, result ≠ .ok (.ok total)) ∧ next.core = allocator.core) ∨
      (0 ≤ count ∧ 0 ≤ size ∧ count * size ≤ maxInt ∧ result = .ok (.ok (count * size)) ∧ next = allocator) := by
  unfold arraySize at run
  split at run
  · rename_i fits
    cases run
    simp only [Bool.and_eq_true, decide_eq_true_eq] at fits
    exact .inr ⟨fits.1.1, fits.1.2, fits.2, rfl, rfl⟩
  · exact .inl (reported_error (reports_blockError _ _ _) _ run)

/-- An array of bytes is a byte block of the whole product, once the product is checked. -/
theorem sizedAllocation_cases {count size : Int} {tag : String} {allocate : Int → AllocM (Except MemError Block)}
    {allocator next : Allocator} {result : Except Fault (Except MemError Block)}
    (run : (do
        match ← arraySize count size tag with
        | .error error => return .error error
        | .ok total => allocate total : AllocM (Except MemError Block)).run.run allocator = (result, next)) :
    ((∀ block, result ≠ .ok (.ok block)) ∧ next.core = allocator.core) ∨
      (0 ≤ count ∧ 0 ≤ size ∧ count * size ≤ maxInt ∧ (allocate (count * size)).run.run allocator = (result, next)) := by
  rw [run_bind] at run
  rcases sizing : (arraySize count size tag).run.run allocator with ⟨sized, afterSize⟩
  rw [sizing] at run
  rcases arraySize_cases sizing with ⟨refused, kept⟩ | ⟨nonnegativeCount, nonnegativeSize, fits, rfl, rfl⟩
  · left
    rcases sized with fault | (error | total)
    · cases run
      exact ⟨fun _ stopped => (nomatch stopped), kept⟩
    · simp only [run_pure] at run
      cases run
      exact ⟨fun _ stopped => (nomatch stopped), kept⟩
    · exact absurd rfl (refused total)
  · exact .inr ⟨nonnegativeCount, nonnegativeSize, fits, run⟩

/-! ### Typed frames -/

/-- The elements a frame for `count` elements has room for. -/
def framePlaces (element : ElementType) (count : Nat) : Nat :=
  if (Nat.pow 2 32 - 1 - 4) < (frameCount count - count) * element.size then count else frameCount count

/-- The frame for `count` elements of a type, at a base. -/
def frameRegionAt (element : ElementType) (count base : Nat) : Region :=
  let tail := roundLength (element.size * framePlaces element count)
  { base, total := headerSize + tail + tailSize, payload := base + headerSize, frame := true, tail }

/-- The request a frame for `count` elements of a type is enrolled with. -/
def frameRequestOf (element : ElementType) (count : Nat) (tag : String) : Request :=
  { size := element.size * count, length := roundLength (element.size * count),
    alignment := max element.alignment minimumAlignment, tag, kind := .typed, zeroed := true }

theorem frameRegion_cases {element : ElementType} {count : Int} {allocator next : Allocator}
    {result : Except Fault (Except MemError (Region × Nat))}
    (run : (frameRegion element count).run.run allocator = (result, next)) :
    ((∀ region, result ≠ .ok (.ok region)) ∧ next = allocator) ∨
      (0 ≤ count ∧ (element.size = 0 ∨ count.toNat ≤ maxInt / 4 / element.size) ∧
        result = .ok (.ok (frameRegionAt element count.toNat allocator.space.nextBase,
          roundLength (element.size * count.toNat))) ∧
        next = { allocator with space := (allocator.space.reserve
          (frameRegionAt element count.toNat allocator.space.nextBase).total).2 }) := by
  unfold frameRegion at run
  split at run
  · cases run
    exact .inl ⟨fun _ stopped => (nomatch stopped), rfl⟩
  · rename_i nonnegative
    dsimp only at run
    split at run
    · cases run
      exact .inl ⟨fun _ stopped => (nomatch stopped), rfl⟩
    · rename_i small
      rw [run_bind, (reads_checkLimit _).run_eq] at run
      rcases checked : ((checkLimit (roundLength (element.size * count.toNat))).run.run allocator).1 with
        fault | (refused | ⟨⟩) <;> simp only [checked] at run
      · cases run
        exact .inl ⟨fun _ stopped => (nomatch stopped), rfl⟩
      · cases run
        exact .inl ⟨fun _ stopped => (nomatch stopped), rfl⟩
      · simp only [reserveArea, run_bind, run_get, run_set, run_pure] at run
        cases run
        refine .inr ⟨by omega, ?_, rfl, rfl⟩
        simp only [Bool.and_eq_true, decide_eq_true_eq, not_and, Nat.not_lt] at small
        rcases Nat.eq_zero_or_pos element.size with zero | positive
        · exact .inl zero
        · exact .inr (small positive)

/-- A frame for `count` elements of a type, or nothing but reports. -/
theorem allocateFrame_cases {element : ElementType} {count : Int} {tag : String}
    {allocator next : Allocator} {result : Except Fault (Except MemError Block)}
    (run : (allocateFrame element count tag).run.run allocator = (result, next)) :
    ((∀ block, result ≠ .ok (.ok block)) ∧ next.core = allocator.core) ∨
      (0 ≤ count ∧ (element.size = 0 ∨ count.toNat ≤ maxInt / 4 / element.size) ∧
        result = .ok (.ok ⟨some (frameRegionAt element count.toNat allocator.space.nextBase).payload,
          element.size * count.toNat⟩) ∧
        next = enrolled (frameRegionAt element count.toNat allocator.space.nextBase)
          (frameRequestOf element count.toNat tag)
          { allocator with space := (allocator.space.reserve
            (frameRegionAt element count.toNat allocator.space.nextBase).total).2 }) := by
  unfold allocateFrame at run
  simp only [run_bind, run_get] at run
  rcases placing : (frameRegion element count).run.run allocator with ⟨placed, afterRegion⟩
  rw [placing] at run
  rcases frameRegion_cases placing with ⟨failed, rfl⟩ | ⟨nonnegative, small, rfl, rfl⟩
  · left
    rcases placed with fault | (error | region)
    · cases run
      exact ⟨fun _ stopped => (nomatch stopped), rfl⟩
    · exact reported_error (reports_blockError _ _ _) error run
    · exact absurd rfl (failed region)
  · simp only [run_bind, enroll_run, run_pure] at run
    cases run
    exact .inr ⟨nonnegative, small, rfl, rfl⟩

/-- Constructing a value is allocating a frame for one element and writing the
value into it. -/
theorem construct_cases {element : ElementType} {value : List UInt8} {tag : String}
    {allocator next : Allocator} {result : Except Fault (Except MemError Block)}
    (run : (construct element value tag).run.run allocator = (result, next)) :
    ((∀ block, result ≠ .ok (.ok block)) ∧ next.core = allocator.core) ∨
      ∃ framed, (allocateFrame element 1 tag).run.run allocator = (.ok (.ok ⟨some
          (frameRegionAt element 1 allocator.space.nextBase).payload, element.size * 1⟩), framed) ∧
        result = .ok (.ok ⟨some (frameRegionAt element 1 allocator.space.nextBase).payload, element.size * 1⟩) ∧
        next = { framed with
          space := Space.write (frameRegionAt element 1 allocator.space.nextBase).payload value framed.space } := by
  unfold construct at run
  rw [run_bind] at run
  rcases framing : (allocateFrame element 1 tag).run.run allocator with ⟨framedResult, framed⟩
  rw [framing] at run
  rcases allocateFrame_cases framing with ⟨failed, kept⟩ | ⟨_, _, rfl, rfl⟩
  · left
    rcases framedResult with fault | (error | block)
    · cases run
      exact ⟨fun _ stopped => (nomatch stopped), kept⟩
    · simp only [run_pure] at run
      cases run
      exact ⟨fun _ stopped => (nomatch stopped), kept⟩
    · exact absurd rfl (failed block)
  · simp only [run_bind, writeBytes, run_modify, run_pure] at run
    cases run
    exact .inr ⟨_, rfl, rfl, rfl⟩

theorem newArray_run_of_zero (element : ElementType) (tag : String) (allocator : Allocator) :
    (newArray element 0 tag).run.run allocator = (.ok (.ok ⟨none, 0⟩), allocator) := rfl

theorem newArray_run_of_ne_zero {element : ElementType} {count : Int} (tag : String) (allocator : Allocator)
    (nonzero : count ≠ 0) :
    (newArray element count tag).run.run allocator = (allocateFrame element count tag).run.run allocator := by
  unfold newArray
  rw [if_neg (by simpa using nonzero)]

open HeapKit.Endian

/-- Reporting and then returning a value returns that value unless it stopped, and
changes only the reports. -/
theorem reported_then {α β : Type} {first : AllocM α} (reports : Reports first) (value : β)
    {allocator next : Allocator} {result : Except Fault β}
    (run : (first >>= fun _ => pure value).run.run allocator = (result, next)) :
    (result = .ok value ∨ ∃ fault, result = .error fault) ∧ next.core = allocator.core := by
  have kept := @Reports.bind _ _ first (fun _ => (pure value : AllocM β)) reports
    (fun _ => reports_pure _) allocator
  rw [run] at kept
  refine ⟨?_, kept⟩
  rw [run_bind] at run
  rcases running : first.run.run allocator with ⟨_ | _, after⟩ <;> rw [running] at run <;>
    simp only [run_pure] at run <;> cases run
  · exact .inr ⟨_, rfl⟩
  · exact .inl rfl

theorem reports_ite {α : Type} {condition : Prop} [Decidable condition] {yes no : AllocM α}
    (reportsYes : Reports yes) (reportsNo : Reports no) : Reports (if condition then yes else no) := by
  split
  · exact reportsYes
  · exact reportsNo

/-- A report made before the rest of an operation only changes the reports the rest
starts from. -/
theorem run_after_report {α : Type} {condition : Bool} {message : String} {rest : AllocM α}
    {allocator next : Allocator} {result : Except Fault α}
    (run : (if condition = true then reportError message >>= fun _ => rest else rest).run.run
      allocator = (result, next)) :
    ∃ middle : Allocator, middle.core = allocator.core ∧ rest.run.run middle = (result, next) := by
  split at run
  · rw [run_bind] at run
    unfold reportError deliver at run
    rw [run_modify] at run
    exact ⟨_, by rfl, run⟩
  · exact ⟨allocator, rfl, run⟩

/-! ### Frees -/

/-- A release that answers one of `conditions`, or stops. -/
def Answers (conditions : List Condition) (result : Except Fault (Option MemError)) : Prop :=
  (∃ condition ∈ conditions, result = .ok (some (.of condition))) ∨ ∃ fault, result = .error fault

/-- What the checks a free starts with answer for a handle: the nil block and a
misaligned address are refused, an aligned address passes. -/
def Prechecked : Option Nat → Except Fault (Option MemError) → Prop
  | none, result => Answers [.nilBlock] result
  | some payload, result =>
    if payload % minimumAlignment = 0 then result = .ok none else Answers [.illegalPointer] result

theorem precheck_cases {address : Option Nat} {allocator next : Allocator}
    {result : Except Fault (Option MemError)}
    (run : (precheck address).run.run allocator = (result, next)) :
    next.core = allocator.core ∧ Prechecked address result := by
  unfold precheck at run
  rw [run_bind, run_get] at run
  obtain ⟨middle, kept, run⟩ := run_after_report run
  rcases address with _ | payload
  · obtain ⟨results, stays⟩ := reported_then (reports_blockError _ _ _) _ run
    exact ⟨stays.trans kept, by simpa [Prechecked, Answers] using results⟩
  · dsimp only [Prechecked] at run ⊢
    split at run
    · rename_i misaligned
      obtain ⟨results, stays⟩ := reported_then (reports_blockError _ _ _) _ run
      refine ⟨stays.trans kept, ?_⟩
      rw [if_neg (by simpa using misaligned)]
      simpa [Answers] using results
    · rename_i aligned
      cases run
      refine ⟨kept, ?_⟩
      rw [if_pos (by simpa using aligned)]

theorem checkKind_cases {header : Header} {expected : BlockKind} {block : String}
    {allocator next : Allocator} {result : Except Fault (Option MemError)}
    (run : (checkKind header expected block).run.run allocator = (result, next)) :
    next.core = allocator.core ∧
      if header.kind = expected.code then result = .ok none
      else result = .ok (some (.of .kindMismatch)) ∨ ∃ fault, result = .error fault := by
  unfold checkKind at run
  split at run
  · rename_i matching
    cases run
    exact ⟨rfl, if_pos (by simpa using matching) ▸ rfl⟩
  · rename_i differing
    rw [if_neg (by simpa using differing)]
    cases expected
    all_goals
      obtain ⟨results, stays⟩ := reported_then (reports_blockError _ _ _) _ run
      exact ⟨stays, results⟩

/-- The space of a freed block: the payload filled with `0xFF` under the memset setting
unless the block is a frame, and the header's tags and the tail's tag set to `FREE`. -/
def marked (header : Header) (payload : Nat) (memset : Bool) (space : Space) : Space :=
  let filled := if memset && !header.isFrame then space.fill payload header.length.toNat 0xFF else space
  (filled.write (payload - headerSize) header.markFreed.encode).write (payload + header.tailOffset)
    (bytesLE 4 freedTag.toNat)

/-- The allocator after its source takes back the region of `total` bytes at `base`. -/
def released (base total : Nat) (allocator : Allocator) : Allocator :=
  match allocator.source with
  | .heap => allocator
  | .chunk chunks =>
    { allocator with source := .chunk (chunks.release base total allocator.space).1,
                     space := (chunks.release base total allocator.space).2 }
  | .mmap => { allocator with space := allocator.space.unmap base }

/-- The allocator after the block with a header is marked freed and, unless it is a
frame, given back to its source. -/
def retired (header : Header) (payload : Nat) (allocator : Allocator) : Allocator :=
  let freed := { allocator with space := marked header payload allocator.settings.debugMemset allocator.space }
  if header.isFrame then freed
  else released (header.regionBase payload) header.regionTotal freed

theorem sourceRelease_run (base total : Nat) (allocator : Allocator) :
    (sourceRelease base total).run.run allocator = (.ok (), released base total allocator) := by
  unfold sourceRelease released
  rcases source : allocator.source with _ | chunks | _ <;> simp only [run_bind, run_get, source] <;> rfl

theorem retire_run (header : Header) (payload : Nat) (allocator : Allocator) :
    (retire header payload).run.run allocator = (.ok (), retired header payload allocator) := by
  unfold retire retired marked
  simp only [run_bind, run_get, storeHeader, storeTail, writeBytes]
  split <;> simp only [run_bind, run_modify] <;> split <;> rename_i frame <;>
    simp only [Bool.not_eq_true'] at frame <;>
    simp only [frame, Bool.false_eq_true, if_true, if_false, sourceRelease_run, Header.regionBase,
      Header.regionTotal] <;> rfl

/-- The allocator after the counting backend frees the block with a header. -/
def countedFree (counters : Counters) (header : Header) (payload : Nat) (allocator : Allocator) :
    Allocator :=
  retired header payload
    { allocator with
      backend := .lockfree { counters with blocks := counters.blocks - 1,
                                           bytes := counters.bytes - header.length.toNat } }

/-- The kind check of a free that checked the header, and what follows it: a stop, or the
block freed with the check's answer. -/
theorem afterKindCheck_cases {header : Header} {kind : BlockKind} {block : String}
    {free : Allocator → Allocator} {allocator next : Allocator} {result : Except Fault (Option MemError)}
    (run : (checkKind header kind block >>= fun mismatch =>
        (modify free >>= fun _ => retire header payload >>= fun _ => pure mismatch : AllocM _)).run.run
        allocator = (result, next)) :
    (header.kind ≠ kind.code ∧ (∃ fault, result = .error fault) ∧ next.core = allocator.core) ∨
      (result = .ok (if header.kind = kind.code then none else some (.of .kindMismatch)) ∧
        ∃ middle, middle.core = allocator.core ∧ next = retired header payload (free middle)) := by
  rw [run_bind] at run
  rcases checking : (checkKind header kind block).run.run allocator with ⟨checked, middle⟩
  obtain ⟨kept, answer⟩ := checkKind_cases checking
  rw [checking] at run
  rcases checked with fault | mismatch
  · cases run
    refine .inl ⟨fun matching => ?_, ⟨fault, rfl⟩, kept⟩
    rw [if_pos matching] at answer
    cases answer
  · simp only [run_bind, run_modify, retire_run, run_pure] at run
    cases run
    refine .inr ⟨?_, middle, kept, rfl⟩
    split at answer
    · rw [if_pos ‹_›, answer]
    · rw [if_neg ‹_›]
      rcases answer with answer | ⟨fault, stopped⟩
      · rw [answer]
      · cases stopped

theorem freeCounted_cases {counters : Counters} {payload : Nat} {kind : BlockKind}
    {allocator next : Allocator} {result : Except Fault (Option MemError)}
    (run : (freeCounted counters payload kind).run.run allocator = (result, next)) :
    let header := Header.decode (allocator.space.readOrZero (payload - headerSize) headerSize)
    (header.isFreed = true ∧ Answers [.doubleFree] result ∧ next.core = allocator.core) ∨
      (header.isFreed = false ∧ header.isValid = false ∧ Answers [.corruptHeader] result ∧
        next.core = allocator.core) ∨
      (header.isValid = true ∧ header.kind ≠ kind.code ∧ (∃ fault, result = .error fault) ∧
        next.core = allocator.core) ∨
      (header.isValid = true ∧
        result = .ok (if header.kind = kind.code then none else some (.of .kindMismatch)) ∧
        ∃ middle, middle.core = allocator.core ∧ next = countedFree counters header payload middle) := by
  intro header
  unfold freeCounted at run
  simp only [run_bind, loadHeader_run] at run
  split at run
  · rename_i freed
    obtain ⟨results, stays⟩ := reported_then (reports_blockError _ _ _) _ run
    exact .inl ⟨freed, by simpa [Answers] using results, stays⟩
  · rename_i live
    split at run
    · rename_i invalid
      obtain ⟨results, stays⟩ := reported_then (reports_blockError _ _ _) _ run
      exact .inr (.inl ⟨by simpa using live, by simpa using invalid, by simpa [Answers] using results, stays⟩)
    · rename_i valid
      have valid : header.isValid = true := by simpa using valid
      rcases afterKindCheck_cases run with ⟨differs, stopped, kept⟩ | ⟨answer, freed⟩
      · exact .inr (.inr (.inl ⟨valid, differs, stopped, kept⟩))
      · exact .inr (.inr (.inr ⟨valid, answer, freed⟩))

/-- The allocator after the tracking backend looks an untracked address up in its
history, which makes a remembered address the most recent. -/
def lookedUp (tracker : Tracker) (payload : Nat) (allocator : Allocator) : Allocator :=
  match tracker.history with
  | some history =>
    { allocator with backend := .guarded { tracker with history := some (history.lookup payload).2 } }
  | none => allocator

/-- Whether the history of the tracking backend remembers an address. -/
def remembers (tracker : Tracker) (payload : Nat) : Bool :=
  match tracker.history with
  | some history => ((history.lookup payload).1).isSome
  | none => false

/-- The allocator after the tracking backend frees the block in a slot. -/
def trackedFree (tracker : Tracker) (slot : Nat) (header : Header) (payload : Nat)
    (allocator : Allocator) : Allocator :=
  retired header payload
    { allocator with
      backend := .guarded
        { tracker with
          list := tracker.list.remove slot payload
          history := tracker.history.map
            (FreedHistory.add payload ((tracker.list.entryAt? slot).getD default).tag)
          blocks := tracker.blocks - 1
          bytes := tracker.bytes - header.length.toNat } }

theorem freeTracked_cases {tracker : Tracker} {payload : Nat} {kind : BlockKind}
    {allocator next : Allocator} {result : Except Fault (Option MemError)}
    (run : (freeTracked tracker payload kind).run.run allocator = (result, next)) :
    (tracker.list.slotOf? payload = none ∧
        Answers (if remembers tracker payload then [.doubleFree] else [.notInMemlist]) result ∧
        next.core = (lookedUp tracker payload allocator).core) ∨
      ∃ slot, tracker.list.slotOf? payload = some slot ∧
        let entry := (tracker.list.entryAt? slot).getD default
        let header := Header.decode (allocator.space.readOrZero (payload - headerSize) headerSize)
        (header.fitsEntry slot entry = false ∧ Answers [.corruptHeader] result ∧ next.core = allocator.core) ∨
        (header.fitsEntry slot entry = true ∧
          Endian.read32 (allocator.space.readOrZero (payload + header.tailOffset) 4) ≠ liveTailTag ∧
          Answers [.corruptTail] result ∧ next.core = allocator.core) ∨
        (header.fitsEntry slot entry = true ∧
          Endian.read32 (allocator.space.readOrZero (payload + header.tailOffset) 4) = liveTailTag ∧
          ((header.kind ≠ kind.code ∧ (∃ fault, result = .error fault) ∧ next.core = allocator.core) ∨
            (result = .ok (if header.kind = kind.code then none else some (.of .kindMismatch)) ∧
              ∃ middle, middle.core = allocator.core ∧ next = trackedFree tracker slot header payload middle))) := by
  unfold freeTracked at run
  split at run
  · rename_i untracked
    refine .inl ⟨untracked, ?_⟩
    unfold remembers lookedUp
    -- the history is split in the run and in the goal at once, so that both see the same case
    revert run
    cases tracker.history with
    | some history =>
      intro run
      simp only [run_bind, run_modify] at run
      split at run <;> rename_i tag found <;> simp only [found] <;>
        obtain ⟨results, stays⟩ := reported_then (reports_blockError _ _ _) _ run <;>
        exact ⟨by simpa [Answers] using results, stays⟩
    | none =>
      intro run
      obtain ⟨results, stays⟩ := reported_then (reports_blockError _ _ _) _ run
      exact ⟨by simpa [Answers] using results, stays⟩
  · rename_i slot tracked
    refine .inr ⟨slot, tracked, ?_⟩
    simp only [run_bind, loadHeader_run] at run
    split at run
    · rename_i damaged
      rw [← bind_assoc] at run
      obtain ⟨results, stays⟩ :=
        reported_then ((reports_blockError _ _ _).bind fun _ => reports_checkMemlist _ _) _ run
      refine .inl ⟨Bool.eq_false_iff.mpr fun fits => ?_, by simpa [Answers] using results, stays⟩
      simp only [Header.fitsEntry, Bool.and_eq_true, beq_iff_eq] at fits
      simp [fits.1.1, fits.1.2, fits.2] at damaged
    · rename_i intact
      have intact : (Header.decode (allocator.space.readOrZero (payload - headerSize) headerSize)).fitsEntry
          slot ((tracker.list.entryAt? slot).getD default) = true := by
        revert intact
        simp [Header.fitsEntry]
      rw [run_bind, loadTail_run] at run
      dsimp only at run
      split at run
      · rename_i torn
        rw [← bind_assoc] at run
        obtain ⟨results, stays⟩ :=
          reported_then ((reports_blockError _ _ _).bind fun _ => reports_checkMemlist _ _) _ run
        exact .inr (.inl ⟨intact, by simpa using torn, by simpa [Answers] using results, stays⟩)
      · rename_i whole
        exact .inr (.inr ⟨intact, by simpa using whole, afterKindCheck_cases run⟩)

/-- A free either refuses the handle itself, or hands an aligned payload address to the
backend's free after at most a report. -/
theorem free_cases {block : Block} {kind : BlockKind} {allocator next : Allocator}
    {result : Except Fault (Option MemError)}
    (run : (free block kind).run.run allocator = (result, next)) :
    (Answers [.nilBlock, .illegalPointer] result ∧ next.core = allocator.core) ∨
      ∃ payload middle, block.address = some payload ∧ payload % minimumAlignment = 0 ∧
        middle.core = allocator.core ∧
        match allocator.backend with
        | .lockfree counters => (freeCounted counters payload kind).run.run middle = (result, next)
        | .guarded tracker => (freeTracked tracker payload kind).run.run middle = (result, next) := by
  unfold free at run
  rw [run_bind] at run
  rcases checking : (precheck block.address).run.run allocator with ⟨checked, middle⟩
  obtain ⟨kept, answer⟩ := precheck_cases checking
  rw [checking] at run
  rcases checked with fault | (_ | error)
  · cases run
    exact .inl ⟨.inr ⟨fault, rfl⟩, kept⟩
  · rcases address : block.address with _ | payload <;> rw [address] at answer <;>
      simp only [Prechecked, Answers] at answer
    · simp at answer
    · split at answer
      · rename_i aligned
        have sameBackend : middle.backend = allocator.backend := backend_eq_of_core kept
        refine .inr ⟨payload, middle, rfl, aligned, kept, ?_⟩
        simp only [run_bind, run_get, address, Option.getD_some] at run
        rw [← sameBackend]
        split <;> rename_i backend <;> rw [backend] at run <;> exact run
      · simp at answer
  · cases run
    refine .inl ⟨.inl ?_, kept⟩
    rcases address : block.address with _ | payload <;> rw [address] at answer <;>
      simp only [Prechecked, Answers] at answer
    · simp only [List.mem_singleton, exists_eq_left, Except.ok.injEq, Option.some.injEq, reduceCtorEq,
        exists_false, or_false] at answer
      exact ⟨.nilBlock, by simp, congrArg _ (congrArg _ answer)⟩
    · split at answer
      · cases answer
      · simp only [List.mem_singleton, exists_eq_left, Except.ok.injEq, Option.some.injEq, reduceCtorEq,
          exists_false, or_false] at answer
        exact ⟨.illegalPointer, by simp, congrArg _ (congrArg _ answer)⟩

/-! ### Typed releases -/

theorem free_address_only (address : Option Nat) (length other : Int) (kind : BlockKind) :
    free ⟨address, length⟩ kind = free ⟨address, other⟩ kind := rfl

/-- The nil block is never freed. -/
theorem free_nil_refused {length : Int} {kind : BlockKind} {allocator next : Allocator}
    {result : Except Fault (Option MemError)}
    (run : (free ⟨none, length⟩ kind).run.run allocator = (result, next)) : result ≠ .ok none := by
  rcases free_cases run with ⟨answer, _⟩ | ⟨_, _, absent, _⟩
  · rintro rfl
    simp [Answers] at answer
  · cases absent

/-- The allocator after a value or an array that was freed is cleared: `length` zeros
at its address, when the free succeeded. -/
def clearedAfter (address : Option Nat) (length : Nat) (result : Except Fault (Option MemError))
    (allocator : Allocator) : Allocator :=
  match address, result with
  | some payload, .ok none => { allocator with space := allocator.space.write payload (List.replicate length 0) }
  | _, _ => allocator

/-- Whether an address is live is read without changing anything. -/
theorem isLive_run (address : Option Nat) (allocator : Allocator) :
    ∃ live, (isLive address).run.run allocator = (.ok live, allocator) := by
  unfold isLive
  split
  · exact ⟨false, rfl⟩
  · simp only [run_bind, run_get]
    split
    · split
      · exact ⟨false, rfl⟩
      · exact ⟨_, rfl⟩
    · exact ⟨_, rfl⟩

/-- A loop whose every step finishes finishes. -/
theorem forIn_finishes {β : Type} (items : List β) (body : β → PUnit → AllocM (ForInStep PUnit))
    (finishes : ∀ item state allocator, ∃ step, ((body item state).run.run allocator).1 = .ok step)
    (state : PUnit) (allocator : Allocator) :
    ∃ done, ((forIn items state body).run.run allocator).1 = .ok done := by
  induction items generalizing state allocator with
  | nil => exact ⟨state, rfl⟩
  | cons item rest inductionHypothesis =>
    rw [List.forIn_cons, run_bind]
    obtain ⟨step, stepped⟩ := finishes item state allocator
    rcases running : (body item state).run.run allocator with ⟨outcome, next⟩
    rw [running] at stepped
    cases stepped
    cases step with
    | done => exact ⟨_, rfl⟩
    | yield following => exact inductionHypothesis following next

/-- Finalizing a value only records its identifier. -/
theorem finalize_run_core (address : Nat) (allocator : Allocator) :
    ((finalize address).run.run allocator).1 = .ok () ∧
      ((finalize address).run.run allocator).2.core = allocator.core :=
  ⟨rfl, rfl⟩

theorem reports_finalize (address : Nat) : Reports (finalize address) := fun allocator =>
  (finalize_run_core address allocator).2

/-- A free of a value or an array that clears it when the free succeeded. -/
theorem freeThenClear_cases {address : Option Nat} {length : Int} {clear : Nat} {allocator next : Allocator}
    {result : Except Fault (Option MemError)}
    (run : (free ⟨address, length⟩ .typed >>= fun outcome =>
        if outcome.isNone = true then
          writeBytes (address.getD 0) (List.replicate clear 0) >>= fun _ => pure outcome
        else pure outcome).run.run allocator = (result, next)) :
    ∃ freed, (free ⟨address, length⟩ .typed).run.run allocator = (result, freed) ∧
      next = clearedAfter address clear result freed := by
  rw [run_bind] at run
  rcases freeing : (free ⟨address, length⟩ .typed).run.run allocator with ⟨outcome, freed⟩
  rw [freeing] at run
  refine ⟨freed, ?_⟩
  rcases outcome with fault | (_ | error)
  · cases run
    exact ⟨rfl, by cases address <;> rfl⟩
  · simp only [Option.isNone_none, if_true, run_bind, writeBytes, run_modify, run_pure] at run
    cases run
    rcases address with _ | payload
    · exact absurd rfl (free_nil_refused freeing)
    · exact ⟨rfl, rfl⟩
  · simp only [Option.isNone_some, Bool.false_eq_true, if_false, run_pure] at run
    cases run
    exact ⟨rfl, by cases address <;> rfl⟩

theorem destroy_cases {element : ElementType} {address : Option Nat} {allocator next : Allocator}
    {result : Except Fault (Option MemError)}
    (run : (destroy element address).run.run allocator = (result, next)) :
    ∃ middle freed, middle.core = allocator.core ∧
      (free ⟨address, element.size⟩ .typed).run.run middle = (result, freed) ∧
      next = clearedAfter address element.size result freed := by
  unfold destroy at run
  rcases address with _ | payload
  · rw [free_address_only none 0 element.size] at run
    exact ⟨allocator, next, rfl, run, rfl⟩
  · obtain ⟨live, checking⟩ := isLive_run (some payload) allocator
    rw [run_bind, checking] at run
    dsimp only at run
    split at run
    · rw [run_bind] at run
      obtain ⟨finalized, kept⟩ := finalize_run_core payload allocator
      rcases finalizing : (finalize payload).run.run allocator with ⟨done, middle⟩
      rw [finalizing] at run finalized kept
      cases finalized
      obtain ⟨freed, freeing, cleared⟩ := freeThenClear_cases run
      exact ⟨middle, freed, kept, freeing, cleared⟩
    · obtain ⟨freed, freeing, cleared⟩ := freeThenClear_cases run
      exact ⟨allocator, freed, rfl, freeing, cleared⟩

theorem freeArray_cases {element : ElementType} {address : Option Nat} {capacity : Nat}
    {allocator next : Allocator} {result : Except Fault (Option MemError)}
    (run : (freeArray element address capacity).run.run allocator = (result, next)) :
    (capacity = 0 ∧ result = .ok none ∧ next = allocator) ∨
      (capacity ≠ 0 ∧ ∃ freed, (free ⟨address, capacity * element.size⟩ .typed).run.run allocator = (result, freed) ∧
        next = clearedAfter address (capacity * element.size) result freed) := by
  unfold freeArray at run
  split at run
  · rename_i empty
    cases run
    exact .inl ⟨by simpa using empty, rfl, rfl⟩
  · rename_i nonempty
    dsimp only at run
    exact .inr ⟨by simpa using nonempty, freeThenClear_cases run⟩

theorem destroyArray_cases {element : ElementType} {address : Option Nat} {capacity : Nat}
    {allocator next : Allocator} {result : Except Fault (Option MemError)}
    (run : (destroyArray element address capacity).run.run allocator = (result, next)) :
    ∃ middle, middle.core = allocator.core ∧
      (freeArray element address capacity).run.run middle = (result, next) := by
  unfold destroyArray at run
  obtain ⟨live, checking⟩ := isLive_run address allocator
  rw [run_bind, checking] at run
  dsimp only at run
  split at run
  · rw [run_bind] at run
    have kept := reports_forIn (List.range capacity)
      (fun index _ => finalize (address.getD 0 + index * element.size) >>= fun _ => pure (ForInStep.yield ⟨⟩))
      (fun _ _ => (reports_finalize _).bind fun _ => reports_pure _) ⟨⟩ allocator
    obtain ⟨done, finished⟩ := forIn_finishes (List.range capacity)
      (fun index _ => finalize (address.getD 0 + index * element.size) >>= fun _ => pure (ForInStep.yield ⟨⟩))
      (fun _ _ _ => ⟨_, rfl⟩) ⟨⟩ allocator
    rcases looping : (forIn (List.range capacity) PUnit.unit fun index _ =>
        finalize (address.getD 0 + index * element.size) >>= fun _ => pure (ForInStep.yield PUnit.unit)).run.run
        allocator with ⟨looped, middle⟩
    rw [looping] at run kept finished
    cases finished
    exact ⟨middle, kept, run⟩
  · exact ⟨allocator, rfl, run⟩

/-! ### Switching backends and writing -/

/-- The allocator after it switches to the tracking backend, with an empty list and a
history as large as its settings ask for. -/
def switchedToGuarded (allocator : Allocator) : Allocator :=
  { allocator with
    backend := .guarded
      { history := if 0 < allocator.settings.freedHistory then
          some { capacity := allocator.settings.freedHistory.toNat } else none }
    switched := true }

theorem useGuarded_cases {allocator next : Allocator} {result : Except Fault (Option MemError)}
    (run : useGuarded.run.run allocator = (result, next)) :
    (allocator.switched = true ∧ result = .ok (some (.of .backendFixed)) ∧ next = allocator) ∨
      (allocator.switched = false ∧ allocator.usage.blocks ≠ 0 ∧
        result = .ok (some (.withContext .allocatorInUse (toString allocator.usage.blocks ++ " blocks in use"))) ∧
        next.core = allocator.core) ∨
      (allocator.switched = false ∧ allocator.usage.blocks = 0 ∧ result = .ok none ∧
        next = switchedToGuarded allocator) := by
  unfold useGuarded at run
  simp only [run_bind, run_get] at run
  split at run
  · rename_i fixed
    cases run
    exact .inl ⟨fixed, rfl, rfl⟩
  · rename_i free
    have free : allocator.switched = false := by simpa using free
    split at run
    · rename_i inUse
      simp only [run_bind, reportError, deliver, run_modify, run_pure] at run
      cases run
      exact .inr (.inl ⟨free, by simpa using inUse, rfl, rfl⟩)
    · rename_i empty
      simp only [run_bind, run_set, run_pure] at run
      cases run
      exact .inr (.inr ⟨free, by simpa using empty, rfl, rfl⟩)

@[simp] theorem writeBytes_run (address : Nat) (bytes : List UInt8) (allocator : Allocator) :
    (writeBytes address bytes).run.run allocator =
      (.ok (), { allocator with space := allocator.space.write address bytes }) := rfl

end Allocator

end HeapKit.Memory
