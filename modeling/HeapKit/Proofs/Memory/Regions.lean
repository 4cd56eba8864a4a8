import HeapKit.Proofs.Memory.Requests
import HeapKit.Proofs.Memory.Layout

/-!
# Where a block sits in its region

A byte block of a rounded length at an alignment of at least a word takes a region of a header,
padding of the alignment less a word, the payload and a tail. Whatever word-aligned base the
source hands out, the payload is the first multiple of the alignment a whole header past the
base, so it sits between 32 bytes and 24 bytes plus the alignment into the region: the header
fills the 32 bytes in front of the payload and the tail the 8 bytes behind it, all inside the
region. The header records that offset and the slack behind the tail; the two add up to the
padding plus 24 whatever the base, so a free, which rebuilds the region from the header alone,
hands the source back exactly the region it gave (`rawBlock_region_roundTrip`). A typed frame
puts its payload a header past its base.
-/

namespace HeapKit.Memory

open HeapKit.Endian Allocator

/-! ### The payload's place -/

section Payload

variable (length : Nat) {alignment base : Nat} (least : minimumAlignment ≤ alignment)
  (multiple : alignment % minimumAlignment = 0) (aligned : base % minimumAlignment = 0)
include least multiple aligned

/-- At a word-aligned base, the payload of a byte block is a multiple of its alignment, at least
a header past the base, and at least a word short of a header plus the alignment past it. -/
theorem rawRegionAt_payload :
    (rawRegionAt length alignment base).payload % alignment = 0 ∧
      base + headerSize ≤ (rawRegionAt length alignment base).payload ∧
      (rawRegionAt length alignment base).payload + minimumAlignment ≤ base + headerSize + alignment := by
  have positive : 0 < alignment := by
    rw [minimumAlignment_eq] at least
    omega
  have above := le_alignUp (base + headerSize) alignment
  have within := alignUp_lt (base + headerSize) alignment positive
  have onAlignment := alignUp_mod (base + headerSize) alignment positive
  -- the rounded address is a multiple of a word, as is the address it rounds: they differ by a
  -- word at least unless they are equal
  have onWord : alignUp (base + headerSize) alignment % minimumAlignment = 0 :=
    Nat.mod_eq_zero_of_dvd (Nat.dvd_trans (Nat.dvd_of_mod_eq_zero multiple) (Nat.dvd_of_mod_eq_zero onAlignment))
  have headerIs := headerSize_eq
  rw [minimumAlignment_eq] at aligned multiple onWord ⊢
  exact ⟨onAlignment, above, by change alignUp (base + headerSize) alignment + 8 ≤ _; omega⟩

/-- At a word-aligned base, the payload's offset into a byte block's region is at least a header
and at most 24 bytes plus the alignment, and with the slack behind the tail it makes 24 bytes
plus the alignment. -/
theorem rawRegionAt_offset :
    headerSize ≤ (rawRegionAt length alignment base).offset ∧
      (rawRegionAt length alignment base).offset ≤ 24 + alignment ∧
      (rawRegionAt length alignment base).offset + (rawRegionAt length alignment base).slack length =
        24 + alignment := by
  obtain ⟨-, behind, before⟩ := rawRegionAt_payload length least multiple aligned
  have headerIs := headerSize_eq
  have tailIs := tailSize_eq
  have wordIs := minimumAlignment_eq
  simp only [Region.offset, Region.slack, rawRegionAt, Bool.false_eq_true, if_false] at behind before ⊢
  omega

end Payload

/-! ### The stamped header -/

section Header

variable {request : Request} {base : Nat} (slot : Nat)
  (least : minimumAlignment ≤ request.alignment) (most : request.alignment ≤ maximumAlignment)
  (multiple : request.alignment % minimumAlignment = 0) (aligned : base % minimumAlignment = 0)
  (fits : request.length + headerSize + tailSize + (request.alignment - minimumAlignment) ≤ maxInt)
include least most multiple aligned fits

/-- The header stamped on a byte block records its alignment, its length, the payload's offset
into the region and the slack behind the tail, each within its field. -/
theorem stampHeader_rawRegionAt :
    let region := rawRegionAt request.length request.alignment base
    let header := stampHeader region request slot
    header.alignment.toNat = request.alignment ∧ header.length.toNat = request.length ∧
      header.offset.toNat = region.offset ∧ header.slack.toNat = region.slack request.length := by
  obtain ⟨-, atMost, sum⟩ := rawRegionAt_offset request.length least multiple aligned
  have tailIs := tailSize_eq
  have headerIs := headerSize_eq
  have wordIs := minimumAlignment_eq
  have mostIs : maximumAlignment = 1024 := rfl
  have small := maxInt_lt
  have sizes : UInt16.size = 65536 ∧ UInt32.size = 4294967296 ∧ UInt64.size = 18446744073709551616 :=
    ⟨rfl, rfl, rfl⟩
  exact ⟨UInt16.toNat_ofNat_of_lt' (by omega), UInt64.toNat_ofNat_of_lt' (by omega),
    UInt32.toNat_ofNat_of_lt' (by omega), UInt32.toNat_ofNat_of_lt' (by omega)⟩

/-- A free that reads the header stamped on a byte block hands its source back the block's
region: it starts the header's offset before the payload and ends behind the slack. -/
theorem stampHeader_region :
    let region := rawRegionAt request.length request.alignment base
    (stampHeader region request slot).regionBase region.payload = base ∧
      (stampHeader region request slot).regionTotal = region.total := by
  obtain ⟨-, behind, -⟩ := rawRegionAt_payload request.length least multiple aligned
  obtain ⟨-, -, sum⟩ := rawRegionAt_offset request.length least multiple aligned
  obtain ⟨-, lengthIs, offsetIs, slackIs⟩ := stampHeader_rawRegionAt slot least most multiple aligned fits
  dsimp only at lengthIs offsetIs slackIs ⊢
  unfold Header.regionBase Header.regionTotal
  rw [lengthIs, offsetIs, slackIs]
  have headerIs := headerSize_eq
  have tailIs := tailSize_eq
  have wordIs := minimumAlignment_eq
  simp only [Region.offset, Region.slack, rawRegionAt, Bool.false_eq_true, if_false] at behind sum ⊢
  constructor <;> omega

end Header

/-! ### Reading the stamp back -/

section ReadBack

variable {region : Region} {request : Request} {slot : Nat} {space : Space}

/-- Stamping a block into a space whose areas lie apart, and that holds the header's and the
tail's bytes, writes a header that reads back whole and a tail that reads the live tag. -/
theorem stamped_readBack (apart : space.Apart)
    (headerHeld : space.holds (region.payload - headerSize) headerSize = true)
    (tailHeld : space.holds (region.payload + (stampHeader region request slot).tailOffset) 4 = true)
    (behind : headerSize ≤ region.payload) :
    (stamped region request slot space).readOrZero (region.payload - headerSize) headerSize =
        (stampHeader region request slot).encode ∧
      read32 ((stamped region request slot space).readOrZero
        (region.payload + (stampHeader region request slot).tailOffset) 4) = liveTailTag := by
  have written := apart.write (region.payload - headerSize) (stampHeader region request slot).encode
  have headerBack : (space.write (region.payload - headerSize) (stampHeader region request slot).encode).readOrZero
      (region.payload - headerSize) headerSize = (stampHeader region request slot).encode := by
    have readBack := apart.readOrZero_write_self (show space.holds (region.payload - headerSize)
      (stampHeader region request slot).encode.length = true by rw [Header.length_encode]; exact headerHeld)
    rwa [Header.length_encode] at readBack
  constructor
  · -- the tail is written behind the payload, off the header's bytes
    unfold stamped
    rw [written.readOrZero_write_of_apart (by rw [Space.holds_write]; exact headerHeld)
      (by rw [length_bytesLE]; omega)]
    exact headerBack
  · have readBack := written.readOrZero_write_self (show (space.write (region.payload - headerSize)
        (stampHeader region request slot).encode).holds (region.payload + (stampHeader region request slot).tailOffset)
          (bytesLE 4 liveTailTag.toNat).length = true by rw [length_bytesLE, Space.holds_write]; exact tailHeld)
    rw [length_bytesLE] at readBack
    unfold stamped
    rw [readBack]
    exact read32_bytesLE_self liveTailTag

end ReadBack

/-! ### A granted byte block -/

/-- How a byte block of `length` rounded bytes at alignment `width` sits in the region of `total`
bytes at `base` when its payload is at `payload`, as a space reads its header `header` and its
tail: the payload is aligned and placed between 32 and 24 plus the alignment bytes in, the tail
lies inside the region, and the header reads back live with the block's kind, no flags, its
alignment, length, offset and slack, checks out, and gives a free the region back. -/
structure RawLaidOut (space : Space) (header : Header) (base total payload length width : Nat)
    (kind : BlockKind) : Prop where
  aligned : payload % width = 0
  offsetFrom : 32 ≤ payload - base
  offsetTo : payload - base ≤ 24 + width
  tailInside : payload + length + tailSize ≤ base + total
  headerRead : Header.decode (space.readOrZero (payload - headerSize) headerSize) = header
  live : header.isLive = true
  kindIs : header.kind = kind.code
  noFlags : header.flags = 0
  alignmentIs : header.alignment.toNat = width
  lengthIs : header.length.toNat = length
  offsetIs : header.offset.toNat = payload - base
  slackIs : header.slack.toNat = total - (payload - base) - length - tailSize
  offsetSlack : header.offset.toNat + header.slack.toNat = 24 + width
  valid : header.isValid = true
  tailRead : read32 (space.readOrZero (payload + length) 4) = liveTailTag
  regionBack : ∀ freeing : Allocator, retired header payload freeing =
    released base total { freeing with space := marked header payload freeing.settings.debugMemset freeing.space }

namespace Allocator

/-- Entering a block into either backend stamps it, with the slot that backend gives it. -/
theorem enrolled_space (region : Region) (request : Request) (allocator : Allocator) :
    ∃ slot, (enrolled region request allocator).space = stamped region request slot allocator.space := by
  unfold enrolled
  rcases allocator.backend with counters | tracker
  · exact ⟨0, rfl⟩
  · exact ⟨_, rfl⟩

/-- Filling a fresh payload before it is stamped keeps the areas apart and what they hold. -/
theorem prefilled_space {region : Region} {request : Request} {allocator : Allocator}
    (apart : allocator.space.Apart) :
    (prefilled region request allocator).space.Apart ∧
      ∀ start length, (prefilled region request allocator).space.holds start length =
        allocator.space.holds start length := by
  unfold prefilled
  split
  · exact ⟨apart.write _ _, fun start length => Space.holds_write _ _ _ start length⟩
  · exact ⟨apart, fun _ _ => rfl⟩

/-- A byte request placed at a word-aligned base of a region that a space with areas apart
holds, then filled and enrolled, is laid out there. -/
theorem enrolled_laidOut {request : Request} {base : Nat} {granted : Allocator}
    (least : minimumAlignment ≤ request.alignment) (most : request.alignment ≤ maximumAlignment)
    (multiple : request.alignment % minimumAlignment = 0)
    (valid : validAlignment (request.alignment : Int) = true) (quad : request.length % 4 = 0)
    (fits : request.length + headerSize + tailSize + (request.alignment - minimumAlignment) ≤ maxInt)
    (onWord : base % minimumAlignment = 0) (apart : granted.space.Apart)
    (held : granted.space.holds base (rawTotal request) = true) :
    let region := rawRegionAt request.length request.alignment base
    ∃ header, RawLaidOut (enrolled region request (prefilled region request granted)).space header base
      (rawTotal request) region.payload request.length request.alignment request.kind := by
  dsimp only
  obtain ⟨slot, stampedIs⟩ := enrolled_space (rawRegionAt request.length request.alignment base) request
    (prefilled (rawRegionAt request.length request.alignment base) request granted)
  obtain ⟨filledApart, filledHolds⟩ :=
    @prefilled_space (rawRegionAt request.length request.alignment base) request granted apart
  obtain ⟨aligned, behind, before⟩ := rawRegionAt_payload request.length least multiple onWord
  obtain ⟨alignmentIs, lengthIs, offsetIs, slackIs⟩ := stampHeader_rawRegionAt slot least most multiple onWord fits
  obtain ⟨baseIs, totalIs⟩ := stampHeader_region slot least most multiple onWord fits
  obtain ⟨-, offsetTo, offsetSlack⟩ := rawRegionAt_offset request.length least multiple onWord
  have small := maxInt_lt
  have tailAt : (stampHeader (rawRegionAt request.length request.alignment base) request slot).tailOffset =
      request.length :=
    stampHeader_tailOffset_raw slot rfl (by omega)
  have headerIs := headerSize_eq
  have tailIs := tailSize_eq
  have wordIs := minimumAlignment_eq
  have mostIs : maximumAlignment = 1024 := rfl
  have totalEq : rawTotal request = (rawRegionAt request.length request.alignment base).total := rfl
  have regionTotal : (rawRegionAt request.length request.alignment base).total =
      headerSize + (request.alignment - minimumAlignment) + request.length + tailSize := rfl
  have offsetEq : (rawRegionAt request.length request.alignment base).offset =
      (rawRegionAt request.length request.alignment base).payload - base := rfl
  have slackEq : (rawRegionAt request.length request.alignment base).slack request.length =
      (rawRegionAt request.length request.alignment base).total -
        (rawRegionAt request.length request.alignment base).offset - request.length - tailSize := rfl
  rw [totalEq] at held
  rw [totalEq]
  -- the header's and the tail's bytes lie inside the region the source granted
  have headerHeld : (prefilled (rawRegionAt request.length request.alignment base) request granted).space.holds
      ((rawRegionAt request.length request.alignment base).payload - headerSize) headerSize = true := by
    rw [filledHolds]
    exact Space.holds_of_within held (by omega) (by omega)
  have tailHeld : (prefilled (rawRegionAt request.length request.alignment base) request granted).space.holds
      ((rawRegionAt request.length request.alignment base).payload +
        (stampHeader (rawRegionAt request.length request.alignment base) request slot).tailOffset) 4 = true := by
    rw [filledHolds, tailAt]
    exact Space.holds_of_within held (by omega) (by omega)
  obtain ⟨headerBack, tailBack⟩ := stamped_readBack filledApart headerHeld tailHeld (by omega)
  have checks : (stampHeader (rawRegionAt request.length request.alignment base) request slot).isValid = true :=
    stampHeader_isValid slot (by omega) quad least most valid (by omega) (by omega)
  have bytes : (stampHeader (rawRegionAt request.length request.alignment base) request slot).isFrame = false :=
    stampHeader_isFrame slot
  rw [offsetEq] at offsetIs offsetSlack
  rw [slackEq, offsetEq] at slackIs
  refine ⟨stampHeader (rawRegionAt request.length request.alignment base) request slot, aligned, by omega,
    by omega, by omega, ?_, stampHeader_isLive slot, rfl, ?_, alignmentIs, lengthIs, offsetIs, slackIs, ?_, checks, ?_, ?_⟩
  · rw [stampedIs, headerBack, Header.decode_encode]
  · simp only [stampHeader, rawRegionAt, Bool.false_eq_true, if_false]
  · rw [offsetIs, ← offsetSlack, slackIs, slackEq, offsetEq]
  · rw [tailAt] at tailBack
    rw [stampedIs]
    exact tailBack
  · intro freeing
    unfold retired
    rw [if_neg (by rw [bytes]; exact Bool.false_ne_true), baseIs, totalIs]

end Allocator

/-- Malloc, MallocAligned and Calloc lay a block out in the region its source grants. Take a byte
request at a valid alignment that passes its checks, and a source that grants its region at a
word-aligned base in a space whose areas lie apart. The request then returns the payload that
is the first multiple of the alignment (raised to a word) a header past the base, laid out there
(`RawLaidOut`): between 32 and 24 plus the alignment bytes in, with the header in front and the
tail behind its rounded length inside the region; the header reads back live, of the request's
kind, without flags, with the alignment, the rounded length, the offset and the slack that fill
the region, offset and slack adding up to 24 plus the alignment; it checks out, the tail reads
the live tag, and a free that reads the header hands the source back exactly the region. A typed
frame's payload sits a header past the frame's base, and its header says so. -/
theorem rawBlock_region_roundTrip :
    (∀ {size alignment : Int} {tag : String} {kind : BlockKind} {zeroed : Bool}
      {allocator granted : Allocator} {base : Nat},
      0 ≤ size → validAlignment alignment = true →
      ¬(0 < allocator.settings.maxBlockSize ∧ allocator.settings.maxBlockSize < roundLength size.toNat) →
      headerSize + tailSize + (max alignment.toNat minimumAlignment - minimumAlignment) +
        roundLength size.toNat ≤ maxInt →
      (sourceAlloc (headerSize + (max alignment.toNat minimumAlignment - minimumAlignment) +
        roundLength size.toNat + tailSize)).run.run allocator = (.ok (.ok base), granted) →
      base % minimumAlignment = 0 → granted.space.Apart →
      granted.space.holds base (headerSize + (max alignment.toNat minimumAlignment - minimumAlignment) +
        roundLength size.toNat + tailSize) = true →
      ∃ (next : Allocator) (header : Header),
        (allocateRaw size alignment tag kind zeroed).run.run allocator =
          (.ok (.ok ⟨some (alignUp (base + headerSize) (max alignment.toNat minimumAlignment)), size⟩), next) ∧
        RawLaidOut next.space header base
          (headerSize + (max alignment.toNat minimumAlignment - minimumAlignment) + roundLength size.toNat + tailSize)
          (alignUp (base + headerSize) (max alignment.toNat minimumAlignment)) (roundLength size.toNat)
          (max alignment.toNat minimumAlignment) kind) ∧
    ∀ (element : ElementType) (count base : Nat) (tag : String) (slot : Nat),
      (frameRegionAt element count base).payload = base + headerSize ∧
        (stampHeader (frameRegionAt element count base) (frameRequestOf element count tag) slot).offset.toNat =
          headerSize := by
  refine ⟨fun {size alignment tag kind zeroed allocator granted base} nonnegative valid withinLimit fits sourced
    onWord apart held => ?_, fun element count base tag slot => ⟨rfl, ?_⟩⟩
  · obtain ⟨least, most, multiple, stillValid⟩ := validAlignment_max valid
    have decided := allocateRaw_decided size alignment tag kind zeroed valid allocator
    rw [if_neg (Int.not_lt.mpr nonnegative), if_neg withinLimit, if_neg (Nat.not_lt.mpr fits)] at decided
    unfold SourceAsked rawTotal at decided
    simp only [rawRequestOf] at decided
    rw [sourced] at decided
    have sized : roundLength size.toNat + headerSize + tailSize +
        (max alignment.toNat minimumAlignment - minimumAlignment) ≤ maxInt := by
      omega
    obtain ⟨header, laidOut⟩ := @enrolled_laidOut (rawRequestOf size alignment tag kind zeroed) base granted
      least most multiple stillValid (roundLength_bounds size.toNat).2.2 sized onWord apart held
    exact ⟨_, header, decided, laidOut⟩
  · change ((base + headerSize - base).toUInt32).toNat = headerSize
    rw [Nat.add_sub_cancel_left]
    rfl

/-- A word of bytes at an alignment of sixteen, from a fresh allocator over the heap, meets the
hypotheses: the heap grants the region at the first base. -/
theorem rawBlock_region_roundTrip_fresh :
    let fresh : Allocator := {}
    let total := headerSize + (max (16 : Int).toNat minimumAlignment - minimumAlignment) +
      roundLength (8 : Int).toNat + tailSize
    let granted : Allocator := { fresh with space := (fresh.space.reserve total).2 }
    0 ≤ (8 : Int) ∧ validAlignment 16 = true ∧
    ¬(0 < fresh.settings.maxBlockSize ∧ fresh.settings.maxBlockSize < roundLength (8 : Int).toNat) ∧
    headerSize + tailSize + (max (16 : Int).toNat minimumAlignment - minimumAlignment) +
      roundLength (8 : Int).toNat ≤ maxInt ∧
    (sourceAlloc total).run.run fresh = (.ok (.ok firstBase), granted) ∧
    firstBase % minimumAlignment = 0 ∧ granted.space.Apart ∧ granted.space.holds firstBase total = true ∧
    ∃ (next : Allocator) (header : Header),
      (allocateRaw 8 16 "block" .raw false).run.run fresh =
        (.ok (.ok ⟨some (alignUp (firstBase + headerSize) (max (16 : Int).toNat minimumAlignment)), 8⟩), next) ∧
      RawLaidOut next.space header firstBase total
        (alignUp (firstBase + headerSize) (max (16 : Int).toNat minimumAlignment)) (roundLength (8 : Int).toNat)
        (max (16 : Int).toNat minimumAlignment) .raw := by
  intro fresh total granted
  have nonnegative : 0 ≤ (8 : Int) := by decide
  have valid : validAlignment 16 = true := by decide
  have withinLimit : ¬(0 < fresh.settings.maxBlockSize ∧
      fresh.settings.maxBlockSize < roundLength (8 : Int).toNat) := by decide
  have fits : headerSize + tailSize + (max (16 : Int).toNat minimumAlignment - minimumAlignment) +
      roundLength (8 : Int).toNat ≤ maxInt := by decide
  have sourced : (sourceAlloc total).run.run fresh = (.ok (.ok firstBase), granted) := rfl
  have onWord : firstBase % minimumAlignment = 0 := by decide
  have apart : granted.space.Apart := Space.room_empty.apart.reserve total
  have held : granted.space.holds firstBase total = true := rfl
  exact ⟨nonnegative, valid, withinLimit, fits, sourced, onWord, apart, held,
    rawBlock_region_roundTrip.1 nonnegative valid withinLimit fits sourced onWord apart held⟩

end HeapKit.Memory
