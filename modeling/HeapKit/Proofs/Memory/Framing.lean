import HeapKit.Proofs.Memory.Fresh

/-!
# What a write keeps

A block's header and tail are read back long after they were written, while other blocks are
written, filled and reserved around them. In a space whose areas lie apart, a run of bytes that
one area holds reads as the bytes at its addresses (`Apart.readOrZero_eq_bytes`). So a read
keeps its answer across any write that stays off its bytes and across any reservation, and a
write that one area holds reads back as written.
-/

namespace HeapKit.Memory

namespace Space

variable {space : Space} {address length : Nat}

/-- A held run of bytes reads as the bytes at its addresses. -/
theorem Apart.readOrZero_eq_bytes (apart : space.Apart) (held : space.holds address length = true) :
    space.readOrZero address length =
      (List.range length).map fun offset => space.byteAt (address + offset) := by
  obtain ⟨index, area, atIndex, holdsArea⟩ := (holds_iff_exists space address length).mp held
  exact apart.readOrZero_eq_map atIndex holdsArea

/-- Two spaces that hold a run of bytes and agree on each of its bytes read it alike. -/
theorem readOrZero_congr {other : Space} (apart : space.Apart) (otherApart : other.Apart)
    (held : space.holds address length = true) (otherHeld : other.holds address length = true)
    (agree : ∀ offset, offset < length → other.byteAt (address + offset) = space.byteAt (address + offset)) :
    other.readOrZero address length = space.readOrZero address length := by
  rw [apart.readOrZero_eq_bytes held, otherApart.readOrZero_eq_bytes otherHeld]
  apply List.map_congr_left
  intro offset member
  exact agree offset (List.mem_range.mp member)

/-- A write off a held run of bytes leaves its reading as it was. -/
theorem Apart.readOrZero_write_of_apart (apart : space.Apart) (held : space.holds address length = true)
    {start : Nat} {bytes : List UInt8}
    (off : start + bytes.length ≤ address ∨ address + length ≤ start) :
    (space.write start bytes).readOrZero address length = space.readOrZero address length := by
  refine readOrZero_congr apart (apart.write start bytes) held (by rw [holds_write]; exact held) ?_
  intro offset inside
  rw [apart.byteAt_write, if_neg]
  rintro ⟨-, after, before⟩
  omega

/-- A run of bytes that one area holds reads back as written. -/
theorem Apart.readOrZero_write_self (apart : space.Apart) {bytes : List UInt8}
    (held : space.holds address bytes.length = true) :
    (space.write address bytes).readOrZero address bytes.length = bytes := by
  have written := apart.write address bytes
  rw [written.readOrZero_eq_bytes (by rw [holds_write]; exact held)]
  apply List.ext_getElem
  · simp
  · intro offset inside _
    simp only [List.length_map, List.length_range] at inside
    rw [List.getElem_map, List.getElem_range, apart.byteAt_write, if_pos ⟨held, by omega, by omega⟩,
      Nat.add_sub_cancel_left, List.getD_eq_getElem?_getD, List.getElem?_eq_getElem inside,
      Option.getD_some]

/-- A reservation leaves the reading of a held run of bytes as it was. -/
theorem Apart.readOrZero_reserve (apart : space.Apart) (held : space.holds address length = true)
    (size : Nat) : (space.reserve size).2.readOrZero address length = space.readOrZero address length := by
  refine readOrZero_congr apart (apart.reserve size) held (holds_reserve_of_holds size held) ?_
  intro offset _
  exact apart.byteAt_reserve size _

/-- A write that one area holds takes its bytes where it writes them. -/
theorem Apart.byteAt_write_inside (apart : space.Apart) {bytes : List UInt8}
    (held : space.holds address bytes.length = true) {target : Nat} (after : address ≤ target)
    (before : target < address + bytes.length) :
    (space.write address bytes).byteAt target = bytes.getD (target - address) 0 := by
  rw [apart.byteAt_write, if_pos ⟨held, after, before⟩]

end Space

end HeapKit.Memory
