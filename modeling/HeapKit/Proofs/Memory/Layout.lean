import HeapKit.Proofs.Memory.Twins

/-!
# How new blocks are laid out

A byte block's region holds a header, padding up to the payload's alignment, the payload and
a tail; a typed frame holds a header, room for its elements and a tail. Both are stamped with
a header that checks out (`Header.isValid`), whose length is the request's, and whose tail sits
inside the region behind the payload (`Placed.Laid`). What this takes is arithmetic on the
region: a valid alignment of at least a word divides every address it rounds up to, and the
sizes fit the header's fields.
-/

namespace HeapKit.Memory

open HeapKit.Endian Allocator

/-! ### Alignments -/

/-- A valid alignment is a power of two. -/
theorem validAlignment_pow {alignment : Int} (valid : validAlignment alignment = true) :
    0 < alignment ∧ alignment ≤ maximumAlignment ∧ ∃ exponent, alignment.toNat = 2 ^ exponent := by
  simp only [validAlignment, Bool.and_eq_true, decide_eq_true_eq, beq_iff_eq] at valid
  obtain ⟨⟨positive, atMost⟩, noLowBits⟩ := valid
  refine ⟨positive, atMost, ?_⟩
  exact (Nat.and_sub_one_eq_zero_iff_isPowerOfTwo (by omega)).mp noLowBits

/-- The alignment a request raises a valid one to: at least a word, at most the maximum, a
multiple of a word, and still valid. -/
theorem validAlignment_max {alignment : Int} (valid : validAlignment alignment = true) :
    minimumAlignment ≤ max alignment.toNat minimumAlignment ∧
      max alignment.toNat minimumAlignment ≤ maximumAlignment ∧
      max alignment.toNat minimumAlignment % minimumAlignment = 0 ∧
      validAlignment ((max alignment.toNat minimumAlignment : Nat) : Int) = true := by
  obtain ⟨positive, atMost, exponent, power⟩ := validAlignment_pow valid
  have atMostNat : alignment.toNat ≤ maximumAlignment := by
    simp only [maximumAlignment] at atMost ⊢
    omega
  by_cases small : alignment.toNat ≤ minimumAlignment
  · rw [max_eq_right small]
    exact ⟨le_rfl, by decide, rfl, by decide⟩
  · rw [max_eq_left (by omega)]
    have large : 3 < exponent := by
      by_contra atMostThree
      have := Nat.pow_le_pow_right (by decide : 0 < 2) (Nat.le_of_not_lt atMostThree)
      simp only [minimumAlignment] at small
      omega
    have divides : 2 ^ 3 ∣ 2 ^ exponent := Nat.pow_dvd_pow 2 large.le
    refine ⟨by omega, atMostNat, ?_, ?_⟩
    · rw [power]
      exact Nat.mod_eq_zero_of_dvd divides
    · rw [Int.toNat_of_nonneg positive.le]
      exact valid

/-! ### Lengths and frames -/

theorem roundLength_bounds (length : Nat) :
    length ≤ roundLength length ∧ roundLength length ≤ length + 3 ∧ roundLength length % 4 = 0 := by
  unfold roundLength
  omega

theorem roundLength_mono {shorter longer : Nat} (le : shorter ≤ longer) :
    roundLength shorter ≤ roundLength longer := by
  unfold roundLength
  omega

/-- A frame has room for at least the elements asked for. -/
theorem le_frameCount (count : Nat) : count ≤ frameCount count := by
  unfold frameCount
  split
  · exact le_rfl
  · dsimp only
    set step := frameStep count with stepIs
    have positive : 0 < step := Nat.pow_pos (by decide)
    have := Nat.div_add_mod (count + step - 1) step
    have := Nat.mod_lt (count + step - 1) positive
    rw [Nat.mul_comm]
    omega

/-- The places of a frame: at least the elements asked for, with less than 4 GiB of spare room. -/
theorem framePlaces_bounds (element : ElementType) (count : Nat) :
    count ≤ Allocator.framePlaces element count ∧
      (Allocator.framePlaces element count - count) * element.size ≤ Nat.pow 2 32 - 1 - 4 := by
  unfold Allocator.framePlaces
  split
  · simp
  · rename_i fits
    exact ⟨le_frameCount count, by omega⟩

/-! ### Stamped headers -/

section Stamp

variable {region : Region} {request : Request} (slot : Nat)

theorem stampHeader_length (fits : request.length < 2 ^ 64) :
    (Allocator.stampHeader region request slot).length.toNat = request.length :=
  UInt64.toNat_ofNat_of_lt' fits

/-- A stamped header carries both live tags. -/
@[simp] theorem stampHeader_isLive : (Allocator.stampHeader region request slot).isLive = true := by
  simp only [Header.isLive, Allocator.stampHeader, beq_self_eq_true, Bool.and_self]

/-- A stamped header is a frame's exactly when its region is a frame. -/
@[simp] theorem stampHeader_isFrame :
    (Allocator.stampHeader region request slot).isFrame = region.frame := by
  show ((if region.frame then Header.frameFlag else 0) &&& Header.frameFlag != 0) = region.frame
  cases region.frame <;> decide

theorem stampHeader_tailOffset_raw (bytes : region.frame = false) (fits : request.length < 2 ^ 64) :
    (Allocator.stampHeader region request slot).tailOffset = request.length := by
  rw [Header.tailOffset, stampHeader_isFrame, bytes, if_neg Bool.false_ne_true,
    stampHeader_length slot fits]

theorem stampHeader_tailOffset_frame (framed : region.frame = true) (fits : request.length < 2 ^ 64)
    (spare : region.slack request.length < 2 ^ 32) :
    (Allocator.stampHeader region request slot).tailOffset = request.length + region.slack request.length := by
  rw [Header.tailOffset, stampHeader_isFrame, framed, if_pos rfl, stampHeader_length slot fits]
  exact congrArg _ (UInt32.toNat_ofNat_of_lt' spare)

/-- A stamped header checks out when its length, alignment and offset fit their fields. -/
theorem stampHeader_isValid (fits : request.length < 2 ^ 64) (quad : request.length % 4 = 0)
    (least : minimumAlignment ≤ request.alignment) (most : request.alignment ≤ maximumAlignment)
    (valid : validAlignment (request.alignment : Int) = true) (behind : headerSize ≤ region.offset)
    (near : region.offset < 2 ^ 32) :
    (Allocator.stampHeader region request slot).isValid = true := by
  have kind : (request.kind.code == BlockKind.raw.code || request.kind.code == BlockKind.typed.code) = true := by
    cases request.kind <;> decide
  have alignmentIs : request.alignment.toUInt16.toNat = request.alignment :=
    UInt16.toNat_ofNat_of_lt' (by simp only [maximumAlignment] at most; exact Nat.lt_of_le_of_lt most (by decide))
  have offsetIs : region.offset.toUInt32.toNat = region.offset := UInt32.toNat_ofNat_of_lt' near
  simp only [Header.isValid, Header.isLive, Allocator.stampHeader, beq_self_eq_true, Bool.and_true,
    Bool.true_and, kind, alignmentIs, offsetIs, valid, Bool.and_eq_true, decide_eq_true_eq]
  refine ⟨⟨?_, least⟩, behind⟩
  have lengthIs : request.length.toUInt64.toNat = request.length := UInt64.toNat_ofNat_of_lt' fits
  rw [lengthIs, quad]
  rfl

end Stamp

/-! ### New blocks are laid out -/

section Laid

theorem headerSize_eq : headerSize = 32 := rfl

theorem tailSize_eq : tailSize = 8 := rfl

theorem minimumAlignment_eq : minimumAlignment = 8 := rfl

theorem maxInt_lt : maxInt < 2 ^ 63 := by decide

variable {request : Request} {base : Nat}
  (least : minimumAlignment ≤ request.alignment) (most : request.alignment ≤ maximumAlignment)
  (multiple : request.alignment % minimumAlignment = 0) (valid : validAlignment (request.alignment : Int) = true)
  (quad : request.length % 4 = 0) (aligned : base % minimumAlignment = 0)
include least most multiple valid quad aligned

/-- A byte block's region, padded for a valid alignment of at least a word, is laid out. -/
theorem laid_rawRegion (fits : request.length + headerSize + tailSize + (request.alignment - minimumAlignment) ≤ maxInt) :
    (Placed.ofRegion (rawRegionAt request.length request.alignment base) request 0).Laid := by
  have positive : 0 < request.alignment := by
    rw [minimumAlignment_eq] at least
    omega
  have above := le_alignUp (base + headerSize) request.alignment
  have within := alignUp_lt (base + headerSize) request.alignment positive
  have onWord : alignUp (base + headerSize) request.alignment % minimumAlignment = 0 :=
    Nat.mod_eq_zero_of_dvd (Nat.dvd_trans (Nat.dvd_of_mod_eq_zero multiple)
      (Nat.dvd_of_mod_eq_zero (alignUp_mod (base + headerSize) request.alignment positive)))
  have lengthFits : request.length < 2 ^ 64 := by
    have := maxInt_lt
    omega
  have tailIs : (stampHeader (rawRegionAt request.length request.alignment base) request 0).tailOffset =
      request.length :=
    stampHeader_tailOffset_raw 0 rfl lengthFits
  have headerIs := headerSize_eq
  have tailSizeIs := tailSize_eq
  have wordIs := minimumAlignment_eq
  have mostIs : maximumAlignment = 1024 := rfl
  rw [wordIs] at aligned multiple onWord
  -- The payload sits at least a word below the end of its padding: both are multiples of a word.
  have padded : alignUp (base + headerSize) request.alignment + minimumAlignment ≤
      base + headerSize + request.alignment := by
    omega
  refine ⟨above, ?_, onWord, stampHeader_isValid 0 lengthFits quad least most valid ?_ ?_, rfl,
    stampHeader_length 0 lengthFits, tailIs.ge⟩
  · change alignUp (base + headerSize) request.alignment +
      (stampHeader (rawRegionAt request.length request.alignment base) request 0).tailOffset + 4 ≤
      base + (headerSize + (request.alignment - minimumAlignment) + request.length + tailSize)
    rw [tailIs]
    omega
  · change headerSize ≤ alignUp (base + headerSize) request.alignment - base
    omega
  · change alignUp (base + headerSize) request.alignment - base < 2 ^ 32
    omega

omit multiple in
/-- A typed frame, with a tail that leaves room for the request's length and less than 4 GiB
more, is laid out. -/
theorem laid_frameRegion {tail : Nat} (fits : request.length < 2 ^ 64) (grows : request.length ≤ tail)
    (spare : tail - request.length < 2 ^ 32) :
    (Placed.ofRegion
      { base := base, total := headerSize + tail + tailSize, payload := base + headerSize, frame := true,
        tail := tail } request 0).Laid := by
  have tailIs : (stampHeader
      { base := base, total := headerSize + tail + tailSize, payload := base + headerSize, frame := true,
        tail := tail } request 0).tailOffset = request.length + (tail - request.length) :=
    stampHeader_tailOffset_frame 0 rfl fits spare
  have headerIs := headerSize_eq
  have tailSizeIs := tailSize_eq
  have wordIs := minimumAlignment_eq
  refine ⟨le_rfl, ?_, ?_, stampHeader_isValid 0 fits quad least most valid ?_ ?_, rfl,
    stampHeader_length 0 fits, ?_⟩
  · change base + headerSize + (stampHeader _ request 0).tailOffset + 4 ≤ base + (headerSize + tail + tailSize)
    rw [tailIs]
    omega
  · change (base + headerSize) % minimumAlignment = 0
    rw [wordIs] at aligned ⊢
    omega
  · change headerSize ≤ base + headerSize - base
    omega
  · change base + headerSize - base < 2 ^ 32
    omega
  · change request.length ≤ (stampHeader _ request 0).tailOffset
    rw [tailIs]
    exact Nat.le_add_right _ _

end Laid

/-- A byte block stamped in its region at a word-aligned base is laid out. -/
theorem laid_raw {size alignment : Int} {tag : String} {kind : BlockKind} {zeroed : Bool} {base : Nat}
    (valid : validAlignment alignment = true)
    (fits : (rawRequestOf size alignment tag kind zeroed).length + headerSize + tailSize +
      ((rawRequestOf size alignment tag kind zeroed).alignment - minimumAlignment) ≤ maxInt)
    (aligned : base % minimumAlignment = 0) :
    (Placed.ofRegion (rawRegionAt (rawRequestOf size alignment tag kind zeroed).length
      (rawRequestOf size alignment tag kind zeroed).alignment base)
      (rawRequestOf size alignment tag kind zeroed) 0).Laid := by
  obtain ⟨least, most, multiple, stillValid⟩ := validAlignment_max valid
  exact laid_rawRegion least most multiple stillValid (roundLength_bounds size.toNat).2.2 aligned fits

/-- A typed frame stamped in its region at a word-aligned base is laid out. -/
theorem laid_frame {element : ElementType} {count : Nat} {tag : String} {base : Nat}
    (valid : validAlignment (element.alignment : Int) = true)
    (small : element.size = 0 ∨ count ≤ maxInt / 4 / element.size) (aligned : base % minimumAlignment = 0) :
    (Placed.ofRegion (frameRegionAt element count base) (frameRequestOf element count tag) 0).Laid := by
  obtain ⟨least, most, -, stillValid⟩ := validAlignment_max valid
  rw [Int.toNat_natCast] at least most stillValid
  obtain ⟨enough, spareRoom⟩ := framePlaces_bounds element count
  have product : element.size * count ≤ maxInt / 4 := by
    rcases small with empty | bounded
    · rw [empty, Nat.zero_mul]
      exact Nat.zero_le _
    · rcases Nat.eq_zero_or_pos element.size with empty | positive
      · rw [empty, Nat.zero_mul]
        exact Nat.zero_le _
      · rw [Nat.mul_comm]
        exact (Nat.le_div_iff_mul_le positive).mp bounded
  have grows : element.size * count ≤ element.size * Allocator.framePlaces element count :=
    Nat.mul_le_mul_left _ enough
  have spread : element.size * (Allocator.framePlaces element count - count) =
      element.size * Allocator.framePlaces element count - element.size * count :=
    Nat.mul_sub element.size _ count
  have shortBounds := roundLength_bounds (element.size * count)
  have longBounds := roundLength_bounds (element.size * Allocator.framePlaces element count)
  have lengthFits : roundLength (element.size * count) < 2 ^ 64 := by
    have := maxInt_lt
    omega
  rw [Nat.mul_comm] at spareRoom
  refine laid_frameRegion least most stillValid shortBounds.2.2 aligned lengthFits
    (roundLength_mono grows) ?_
  change roundLength (element.size * Allocator.framePlaces element count) - roundLength (element.size * count) <
    2 ^ 32
  have : Nat.pow 2 32 = 2 ^ 32 := rfl
  omega

end HeapKit.Memory
