import Mathlib
import HeapKit.Proofs.Memory.Bytes

/-!
# Fresh byte buffers

A byte buffer comes from a fresh area above every earlier one or from the free part of the
shared block. `Space.Room` says what makes that safe: the areas lie apart, one area holds the
shared block below the next base, and the shared block's free part reads as zeros. Bytes that
have been handed out are `Claims`: one area holds them, they lie below the next base, and outside
the free part of the shared block.

Under these conditions a reservation hands out bytes that one area holds, that read as zeros,
and that share no byte with anything claimed before; it keeps every earlier claim and changes no
byte. A write outside the free part of the shared block keeps the conditions.
-/

namespace HeapKit.Memory

namespace Space

/-- What handing out byte buffers relies on: areas apart, the shared block held below the next
base, and the bytes of its free part zero. -/
structure Room (space : Space) : Prop where
  apart : space.Apart
  shared : space.holds space.sharedBlock sharedBlockSize = true
  sharedBelow : space.sharedBlock + sharedBlockSize ≤ space.nextBase
  sharedZero : ∀ address, space.sharedBlock + space.sharedOffset ≤ address →
    address < space.sharedBlock + sharedBlockSize → space.byteAt address = 0

/-- The `size` bytes from `base` are taken: one area holds them, they lie below the next base, and
they lie outside the free part of the shared block. -/
def Claims (space : Space) (base size : Nat) : Prop :=
  space.holds base size = true ∧ base + size ≤ space.nextBase ∧
    (base + size ≤ space.sharedBlock + space.sharedOffset ∨ space.sharedBlock + sharedBlockSize ≤ base)

/-! ### Holding and zero bytes -/

/-- The empty space has room: its one area is the first shared block, below the first base and
still zero. -/
theorem room_empty : Space.empty.Room := by
  have below : firstSharedBlock + sharedBlockSize < firstBase := by decide
  have atZero : Space.empty.areas[0]? = some { base := firstSharedBlock, size := sharedBlockSize } := rfl
  have apart : Space.empty.Apart :=
    ⟨fun area member => by
      rw [List.mem_singleton.mp member]
      exact below,
    List.pairwise_singleton _ _⟩
  have block : Space.empty.sharedBlock = firstSharedBlock := rfl
  refine ⟨apart, (holds_iff_exists _ _ _).mpr ⟨0, _, atZero, ?_⟩, below.le, ?_⟩
  · simp only [block, Area.holds_iff]
    omega
  · intro address after before
    rw [block] at after before
    rw [apart.byteAt_eq atZero (by simp only [Area.holds_iff]; omega)]
    exact Area.byte_fresh _ _ _

/-- An area that holds a run of bytes holds every run inside it. -/
theorem holds_of_within {space : Space} {base size start length : Nat}
    (held : space.holds base size = true) (after : base ≤ start)
    (before : start + length ≤ base + size) : space.holds start length = true := by
  obtain ⟨index, area, atIndex, holdsArea⟩ := (holds_iff_exists space base size).mp held
  rw [Area.holds_iff] at holdsArea
  exact (holds_iff_exists space start length).mpr
    ⟨index, area, atIndex, by rw [Area.holds_iff]; omega⟩

theorem holds_reserve_of_holds {space : Space} {start length : Nat} (size : Nat)
    (held : space.holds start length = true) : (space.reserve size).2.holds start length = true := by
  obtain ⟨index, holdsIndex⟩ := (holds_iff_exists space start length).mp held
  exact (holds_iff_exists _ start length).mpr ⟨index, holds_reserve size holdsIndex⟩

/-- No area reaches the next base, so the bytes from it on read as zeros. -/
theorem Apart.byteAt_of_nextBase_le {space : Space} (apart : space.Apart) {address : Nat}
    (above : space.nextBase ≤ address) : space.byteAt address = 0 := by
  apply byteAt_of_not_holds
  rintro index ⟨area, atIndex, holdsArea⟩
  have below := apart.below area (Array.mem_toList_iff.mpr (Array.mem_of_getElem? atIndex))
  rw [Area.holds_iff] at holdsArea
  unfold Area.limit at below
  omega

theorem nextBase_lt_reserve (space : Space) (size : Nat) :
    space.nextBase + size < (space.reserve size).2.nextBase := by
  have := le_alignUp (space.nextBase + size + pageSize) pageSize
  simp only [Space.reserve, pageSize] at this ⊢
  omega

/-! ### Writes -/

section Writes

variable {space : Space} (address : Nat) (bytes : List UInt8)

theorem shared_write : (space.write address bytes).sharedBlock = space.sharedBlock ∧
    (space.write address bytes).sharedOffset = space.sharedOffset := by
  unfold write
  split <;> exact ⟨rfl, rfl⟩

theorem Claims.write {base size : Nat} (claims : space.Claims base size) :
    (space.write address bytes).Claims base size := by
  unfold Claims at claims ⊢
  rw [holds_write, nextBase_write, (shared_write address bytes).1, (shared_write address bytes).2]
  exact claims

/-- A write outside the free part of the shared block keeps the room. -/
theorem Room.write (room : space.Room)
    (outside : address + bytes.length ≤ space.sharedBlock + space.sharedOffset ∨
      space.sharedBlock + sharedBlockSize ≤ address) :
    (space.write address bytes).Room := by
  obtain ⟨sameBlock, sameOffset⟩ : (space.write address bytes).sharedBlock = space.sharedBlock ∧
      (space.write address bytes).sharedOffset = space.sharedOffset :=
    shared_write address bytes
  refine ⟨room.apart.write address bytes, ?_, ?_, ?_⟩
  · rw [holds_write, sameBlock]
    exact room.shared
  · rw [nextBase_write, sameBlock]
    exact room.sharedBelow
  · intro target after before
    rw [sameBlock, sameOffset] at after
    rw [sameBlock] at before
    rw [room.apart.byteAt_write, if_neg fun ⟨_, inside, _⟩ => by omega]
    exact room.sharedZero target after before

/-- Filling bytes with zeros clears exactly the bytes it covers, when one area holds them all. -/
theorem Apart.byteAt_fill (apart : space.Apart) (length target : Nat) :
    (space.fill address length 0).byteAt target =
      if space.holds address length = true ∧ address ≤ target ∧ target < address + length then 0
      else space.byteAt target := by
  unfold fill
  rw [apart.byteAt_write, List.length_replicate]
  split <;> simp

end Writes

/-! ### Reservations -/

/-- What a reservation of `size` bytes at `base`, leaving `next`, does under `Room`: the room
stays, the new bytes are claimed and were zero, every earlier claim stays and shares no byte with
them, and no byte changes. -/
structure Reserved (space next : Space) (base size : Nat) : Prop where
  room : next.Room
  claims : next.Claims base size
  zero : ∀ address, base ≤ address → address < base + size → space.byteAt address = 0
  keeps : ∀ start length, space.Claims start length →
    next.Claims start length ∧ (start + length ≤ base ∨ base + size ≤ start)
  bytes : ∀ address, next.byteAt address = space.byteAt address

/-- A fresh area of `size` bytes at the next base. -/
theorem Room.reserve {space : Space} (room : space.Room) (size : Nat) :
    Reserved space (space.reserve size).2 (space.reserve size).1 size := by
  have grows := nextBase_lt_reserve space size
  have bytes := room.apart.byteAt_reserve size
  refine ⟨⟨room.apart.reserve size, holds_reserve_of_holds size room.shared, by
      simp only [Space.reserve] at grows ⊢; have := room.sharedBelow; omega, ?_⟩, ?_, ?_, ?_, bytes⟩
  · intro address after before
    rw [bytes]
    exact room.sharedZero address after before
  · refine ⟨(holds_iff_exists _ _ _).mpr ⟨_, holds_reserved space size _ _ ⟨le_rfl, le_rfl⟩⟩,
      by simp only [Space.reserve] at grows ⊢; omega, .inr ?_⟩
    exact room.sharedBelow
  · intro address after _
    exact room.apart.byteAt_of_nextBase_le after
  · rintro start length ⟨held, below, outside⟩
    refine ⟨⟨holds_reserve_of_holds size held, by simp only [Space.reserve] at grows ⊢; omega,
      outside⟩, .inl below⟩

/-- A small buffer placed in the free part of the shared block. -/
theorem Room.place {space : Space} (room : space.Room) {size offset : Nat}
    (from_ : space.sharedOffset ≤ offset) (fits : offset + size ≤ sharedBlockSize) :
    Reserved space { space with sharedOffset := offset + size } (space.sharedBlock + offset) size := by
  have below := room.sharedBelow
  refine ⟨⟨room.apart.of_areas rfl rfl, room.shared, below, ?_⟩, ?_, ?_, ?_, fun _ => rfl⟩
  · intro address after before
    exact room.sharedZero address (by simp only at after; omega) before
  · exact ⟨holds_of_within room.shared (by omega) (by omega), by simp only; omega,
      .inl (by simp only; omega)⟩
  · intro address after before
    exact room.sharedZero address (by omega) (by omega)
  · rintro start length ⟨held, claimedBelow, outside⟩
    refine ⟨⟨held, claimedBelow, ?_⟩, ?_⟩
    · simp only
      omega
    · omega

/-- A new shared block of which a small buffer takes the start, when it has more room left than
the old one. -/
theorem Room.replace {space : Space} (room : space.Room) {size : Nat}
    (small : size < sharedBlockSize) :
    Reserved space
      { (space.reserve sharedBlockSize).2 with
        sharedBlock := (space.reserve sharedBlockSize).1, sharedOffset := size }
      (space.reserve sharedBlockSize).1 size := by
  have reserved := room.reserve sharedBlockSize
  have grows := nextBase_lt_reserve space sharedBlockSize
  have block : (space.reserve sharedBlockSize).1 = space.nextBase := rfl
  obtain ⟨heldBlock, _, _⟩ := reserved.claims
  -- the new shared block changes no area, so no byte
  have bytes : ∀ address, ({ (space.reserve sharedBlockSize).2 with
      sharedBlock := (space.reserve sharedBlockSize).1, sharedOffset := size } : Space).byteAt address =
      space.byteAt address :=
    fun address => (byteAt_of_areas rfl address).trans (reserved.bytes address)
  refine ⟨⟨reserved.room.apart.of_areas rfl rfl, heldBlock, by simp only; omega, ?_⟩, ?_, ?_, ?_,
    bytes⟩
  · intro address after before
    simp only at after before
    rw [bytes]
    exact room.apart.byteAt_of_nextBase_le (by omega)
  · exact ⟨holds_of_within heldBlock le_rfl (by omega), by simp only; omega, .inl le_rfl⟩
  · intro address after _
    exact room.apart.byteAt_of_nextBase_le (by omega)
  · rintro start length claims
    obtain ⟨⟨held, claimedBelow, _⟩, _⟩ := reserved.keeps start length claims
    obtain ⟨_, oldBelow, _⟩ := claims
    exact ⟨⟨held, claimedBelow, .inl (by simp only; omega)⟩, .inl (by omega)⟩

/-- Narrowing a reservation to its first bytes. -/
theorem Reserved.shrink {space next : Space} {base size : Nat} (reserved : Reserved space next base size)
    {smaller : Nat} (within : smaller ≤ size) : Reserved space next base smaller := by
  obtain ⟨held, below, outside⟩ := reserved.claims
  refine ⟨reserved.room, ⟨holds_of_within held le_rfl (by omega), by omega, ?_⟩,
    fun address after before => reserved.zero address after (by omega), ?_, reserved.bytes⟩
  · rcases outside with outside | outside
    · exact .inl (by omega)
    · exact .inr outside
  · intro start length claims
    obtain ⟨kept, apart⟩ := reserved.keeps start length claims
    exact ⟨kept, by omega⟩

/-- A byte buffer is a fresh reservation. -/
theorem Room.reserveBytes {space : Space} (room : space.Room) (size : Nat) :
    Reserved space (space.reserveBytes size).2 (space.reserveBytes size).1 size := by
  unfold Space.reserveBytes
  split
  · exact room.reserve size
  · rename_i small
    have small : size < sharedBlockSize := by
      simp only [Bool.or_eq_true, beq_iff_eq, decide_eq_true_eq, not_or, not_le] at small
      exact small.2
    dsimp only
    split
    · rename_i fits
      exact room.place (le_alignUp _ _) fits
    · split
      · exact room.replace small
      · exact (room.reserve sharedBlockSize).shrink small.le

end Space

end HeapKit.Memory
