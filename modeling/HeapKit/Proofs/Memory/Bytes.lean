import HeapKit.Memory.Space

/-!
# Reading back the address space

What a read of the space returns after the space changed. A write leaves every
area where it was, so it changes no read of bytes it does not cover
(`readOrZero_write_of_disjoint`), and a read inside the written bytes returns
them (`readOrZero_write_within`). A space whose areas are `Apart` places a
fresh area above all others, so reserving changes no read at all
(`readOrZero_reserve`); and in such a space a run of bytes lies in at most one
area, which is how a read and a write are known to meet in the same area.
-/

namespace HeapKit.Memory

/-- A byte array lists its bytes in order. -/
theorem byteArray_toList (bytes : ByteArray) : bytes.toList = bytes.data.toList := by
  have size : bytes.size = bytes.data.size := rfl
  have loop : ∀ count index rest, bytes.size - index = count →
      ByteArray.toList.loop bytes index rest = rest.reverse ++ bytes.data.toList.drop index := by
    intro count
    induction count with
    | zero =>
      intro index rest exhausted
      rw [ByteArray.toList.loop, if_neg (by omega),
        List.drop_eq_nil_of_le (by rw [Array.length_toList]; omega), List.append_nil]
    | succ count inductionHypothesis =>
      intro index rest remaining
      have inside : index < bytes.data.toList.length := by rw [Array.length_toList]; omega
      rw [ByteArray.toList.loop, if_pos (by omega),
        inductionHypothesis (index + 1) _ (by omega), List.drop_eq_getElem_cons inside]
      simp only [ByteArray.get!, List.reverse_cons, List.append_assoc, List.singleton_append,
        Array.getElem_toList]
      rw [getElem!_pos bytes.data index (by simpa using inside)]
  unfold ByteArray.toList
  simpa using loop _ 0 [] rfl

/-! ### Alignment -/

theorem le_alignUp (address alignment : Nat) : address ≤ alignUp address alignment := by
  unfold alignUp
  split
  · exact Nat.le_refl address
  · have below := Nat.lt_div_mul_add (a := address + alignment - 1) (b := alignment) (by omega)
    omega

theorem alignUp_lt (address alignment : Nat) (positive : 0 < alignment) :
    alignUp address alignment < address + alignment := by
  unfold alignUp
  rw [if_neg (by omega)]
  have := Nat.div_mul_le_self (address + alignment - 1) alignment
  omega

theorem alignUp_mod (address alignment : Nat) (positive : 0 < alignment) :
    alignUp address alignment % alignment = 0 := by
  unfold alignUp
  rw [if_neg (by omega)]
  exact Nat.mul_mod_left _ _

namespace Area

/-- The byte at an offset of an area: a stored byte, or zero past them. -/
def byte (area : Area) (offset : Nat) : UInt8 := area.stored.data.toList.getD offset 0

@[simp] theorem byte_fresh (base size offset : Nat) : ({ base, size } : Area).byte offset = 0 := by
  rfl

/-- A slice of an area, byte by byte. -/
theorem slice_eq_map (area : Area) (start length : Nat) :
    area.slice start length = (List.range length).map fun index => area.byte (start + index) := by
  have kept : (area.stored.extract start (start + length)).toList =
      (area.stored.data.toList.drop start).take length := by
    rw [byteArray_toList, ByteArray.data_extract, Array.toList_extract, List.extract_eq_take_drop,
      Nat.add_sub_cancel_left]
  unfold slice
  dsimp only
  rw [kept]
  apply List.ext_getElem
  · simp only [List.length_append, List.length_take, List.length_drop, List.length_replicate,
      List.length_map, List.length_range]
    omega
  · intro index _ inside
    have size : area.stored.data.toList.length = area.stored.size := by simp
    simp only [List.length_map, List.length_range] at inside
    rw [List.getElem_map, List.getElem_range, List.getElem_append]
    split
    · rename_i early
      have stored : start + index < area.stored.data.toList.length := by simp at early; omega
      simp [byte, List.getD_eq_getElem?_getD, List.getElem?_eq_getElem stored]
    · rename_i late
      have past : area.stored.data.toList.length ≤ start + index := by simp at late; omega
      simp [byte, List.getD_eq_getElem?_getD, List.getElem?_eq_none past]

/-- Storing bytes puts them at their offsets and leaves every other byte. -/
theorem store_byte (area : Area) (start : Nat) (bytes : List UInt8) (offset : Nat) :
    (area.store start bytes).byte offset =
      if start ≤ offset ∧ offset < start + bytes.length then bytes.getD (offset - start) 0
      else area.byte offset := by
  unfold store byte
  dsimp only
  rw [ByteArray.copySlice_eq_append]
  simp only [ByteArray.toList_data_append, ByteArray.data_extract, Array.toList_extract,
    List.extract_eq_take_drop, Nat.zero_add, Nat.sub_zero, List.drop_zero, List.size_toArray,
    Nat.min_self, List.take_length]
  -- the stored bytes, padded with zeros up to the end of the write
  generalize padded : (if area.stored.size < start + bytes.length then
      area.stored ++ { data := Array.replicate (start + bytes.length - area.stored.size) 0 }
      else area.stored) = pad
  have long : start + bytes.length ≤ pad.data.size := by
    subst padded
    split <;> simp at * <;> omega
  have same : ∀ index, pad.data.toList.getD index 0 = area.stored.data.toList.getD index 0 := by
    intro index
    subst padded
    split
    · simp only [ByteArray.toList_data_append, List.getD_eq_getElem?_getD, List.getElem?_append]
      split
      · rfl
      · rename_i outside
        simp only [Array.length_toList] at outside
        simp [List.getElem?_replicate, Array.getElem?_eq_none (Nat.le_of_not_gt outside)]
        split <;> rfl
    · rfl
  rw [← same offset, List.take_of_length_le (l := List.drop (start + bytes.length) pad.data.toList)
    (by simp)]
  simp only [List.getD_eq_getElem?_getD, List.getElem?_append, List.length_append, List.length_take,
    List.getElem?_take, List.getElem?_drop, Array.length_toList,
    Nat.min_eq_left (by omega : start ≤ pad.data.size)]
  repeat' split
  all_goals first | rfl | omega | (congr 2; omega)

/-- Where an area starts and how large it is. -/
def bounds (area : Area) : Nat × Nat := (area.base, area.size)

@[simp] theorem base_store (area : Area) (start : Nat) (bytes : List UInt8) :
    (area.store start bytes).base = area.base := rfl

@[simp] theorem size_store (area : Area) (start : Nat) (bytes : List UInt8) :
    (area.store start bytes).size = area.size := rfl

@[simp] theorem bounds_store (area : Area) (start : Nat) (bytes : List UInt8) :
    (area.store start bytes).bounds = area.bounds := rfl

@[simp] theorem holds_iff (area : Area) (address length : Nat) :
    area.holds address length = true ↔ area.base ≤ address ∧ address + length ≤ area.base + area.size := by
  unfold holds limit
  rw [Bool.and_eq_true, decide_eq_true_iff, decide_eq_true_iff]

theorem holds_store (area : Area) (start : Nat) (bytes : List UInt8) :
    (area.store start bytes).holds = area.holds := rfl

/-- A slice of bytes the store did not touch is the old slice. -/
theorem slice_store_of_disjoint (area : Area) (start : Nat) (bytes : List UInt8) (from_ length : Nat)
    (apart : start + bytes.length ≤ from_ ∨ from_ + length ≤ start) :
    (area.store start bytes).slice from_ length = area.slice from_ length := by
  rw [slice_eq_map, slice_eq_map]
  apply List.map_congr_left
  intro index member
  rw [List.mem_range] at member
  rw [store_byte, if_neg (by omega)]

/-- A slice inside the stored bytes is theirs. -/
theorem slice_store_of_within (area : Area) (start : Nat) (bytes : List UInt8) (from_ length : Nat)
    (inside : start ≤ from_ ∧ from_ + length ≤ start + bytes.length) :
    (area.store start bytes).slice from_ length = (bytes.drop (from_ - start)).take length := by
  rw [slice_eq_map]
  apply List.ext_getElem
  · simp
    omega
  · intro index inside' _
    simp only [List.length_map, List.length_range] at inside'
    rw [List.getElem_map, List.getElem_range, store_byte, if_pos (by omega), List.getElem_take,
      List.getElem_drop, List.getD_eq_getElem?_getD, List.getElem?_eq_getElem (by omega),
      Option.getD_some]
    congr 1
    omega

end Area


namespace Space

/-! ### Areas apart -/

/-- The areas of a space lie apart: each ends below the next base, and each ends
below the start of every area placed after it. -/
structure Apart (space : Space) : Prop where
  below : ∀ area ∈ space.areas.toList, area.limit < space.nextBase
  ordered : space.areas.toList.Pairwise fun first second => first.limit < second.base

/-- The area at a position holds a run of bytes. -/
def Holds (space : Space) (index address length : Nat) : Prop :=
  ∃ area, space.areas[index]? = some area ∧ area.holds address length = true

theorem locate?_holds {space : Space} {address length index : Nat}
    (located : space.locate? address length = some index) : space.Holds index address length := by
  unfold locate? at located
  have found := List.find?_some located
  revert found
  cases atIndex : space.areas[index]? with
  | none => simp
  | some area => exact fun holds => ⟨area, atIndex, holds⟩

/-- In a space whose areas lie apart, a nonempty run of bytes lies in at most one area. -/
theorem Apart.holds_unique {space : Space} (apart : space.Apart) {address length first second : Nat}
    (nonempty : 0 < length) (inFirst : space.Holds first address length)
    (inSecond : space.Holds second address length) : first = second := by
  obtain ⟨one, atFirst, holdsOne⟩ := inFirst
  obtain ⟨other, atSecond, holdsOther⟩ := inSecond
  rw [Area.holds_iff] at holdsOne holdsOther
  have ordered := List.pairwise_iff_getElem.mp apart.ordered
  have firstBound : first < space.areas.toList.length := by
    simpa using (Array.getElem?_eq_some_iff.mp atFirst).1
  have secondBound : second < space.areas.toList.length := by
    simpa using (Array.getElem?_eq_some_iff.mp atSecond).1
  have oneAt : space.areas.toList[first] = one := by
    simpa using (Array.getElem?_eq_some_iff.mp atFirst).2
  have otherAt : space.areas.toList[second] = other := by
    simpa using (Array.getElem?_eq_some_iff.mp atSecond).2
  rcases Nat.lt_trichotomy first second with before | same | after
  · have gap := ordered first second firstBound secondBound before
    rw [oneAt, otherAt] at gap
    simp only [Area.limit] at gap
    omega
  · exact same
  · have gap := ordered second first secondBound firstBound after
    rw [oneAt, otherAt] at gap
    simp only [Area.limit] at gap
    omega

/-- In a space whose areas lie apart, a nonempty run of bytes is located at the
one area that holds it. -/
theorem Apart.locate?_eq {space : Space} (apart : space.Apart) {address length index : Nat}
    (nonempty : 0 < length) (holds : space.Holds index address length) :
    space.locate? address length = some index := by
  obtain ⟨area, atIndex, holdsArea⟩ := holds
  have inRange : index ∈ (List.range space.areas.size).reverse := by
    simpa using (Array.getElem?_eq_some_iff.mp atIndex).1
  cases found : space.locate? address length with
  | none =>
    unfold locate? at found
    have missed := List.find?_eq_none.mp found index inRange
    simp [atIndex, holdsArea] at missed
  | some other =>
    have same := apart.holds_unique nonempty (locate?_holds found) ⟨area, atIndex, holdsArea⟩
    rw [same]

/-- Whether areas lie apart depends only on where they start and end. -/
theorem Apart.of_bounds {space other : Space} (apart : space.Apart)
    (same : other.areas.toList.map Area.bounds = space.areas.toList.map Area.bounds)
    (next : other.nextBase = space.nextBase) : other.Apart := by
  have byBounds : ∀ areas : List Area, areas.Pairwise (fun first second => first.limit < second.base) ↔
      (areas.map Area.bounds).Pairwise fun first second => first.1 + first.2 < second.1 := by
    intro areas
    rw [List.pairwise_map]
    rfl
  constructor
  · intro area member
    have mapped : area.bounds ∈ space.areas.toList.map Area.bounds := by
      rw [← same]
      exact List.mem_map_of_mem member
    obtain ⟨original, isOriginal, sameBounds⟩ := List.mem_map.mp mapped
    have below := apart.below original isOriginal
    simp only [Area.bounds, Prod.mk.injEq] at sameBounds
    simp only [Area.limit] at below ⊢
    omega
  · rw [byBounds, same, ← byBounds]
    exact apart.ordered

/-! ### Reads -/

theorem holds_iff_exists (space : Space) (address length : Nat) :
    space.holds address length = true ↔ ∃ index, space.Holds index address length := by
  constructor
  · intro held
    obtain ⟨index, located⟩ := Option.isSome_iff_exists.mp held
    exact ⟨index, locate?_holds located⟩
  · rintro ⟨index, area, atIndex, holdsArea⟩
    have inRange : index ∈ (List.range space.areas.size).reverse := by
      simpa using (Array.getElem?_eq_some_iff.mp atIndex).1
    unfold holds locate?
    rw [List.find?_isSome]
    exact ⟨index, inRange, by simp [atIndex, holdsArea]⟩

/-- The run of bytes at an address, read from the area at a position that holds it. -/
theorem Apart.read?_eq {space : Space} (apart : space.Apart) {address length index : Nat}
    {area : Area} (nonempty : 0 < length) (atIndex : space.areas[index]? = some area)
    (holds : area.holds address length = true) :
    space.read? address length = some (area.slice (address - area.base) length) := by
  unfold read?
  rw [apart.locate?_eq nonempty ⟨area, atIndex, holds⟩]
  simp [atIndex]

/-- The byte at an address: what a read of one byte there returns. -/
def byteAt (space : Space) (address : Nat) : UInt8 := (space.readOrZero address 1).headD 0

theorem Apart.byteAt_eq {space : Space} (apart : space.Apart) {address index : Nat} {area : Area}
    (atIndex : space.areas[index]? = some area) (holds : area.holds address 1 = true) :
    space.byteAt address = area.byte (address - area.base) := by
  unfold byteAt readOrZero
  rw [apart.read?_eq Nat.one_pos atIndex holds, Area.slice_eq_map]
  simp

theorem byteAt_of_not_holds {space : Space} {address : Nat}
    (outside : ∀ index, ¬ space.Holds index address 1) : space.byteAt address = 0 := by
  have located : space.locate? address 1 = none := by
    cases found : space.locate? address 1 with
    | none => rfl
    | some index => exact absurd (locate?_holds found) (outside index)
  simp [byteAt, readOrZero, read?, located]

theorem readOrZero_zero (space : Space) (address : Nat) : space.readOrZero address 0 = [] := by
  unfold readOrZero read?
  cases space.locate? address 0 with
  | none => rfl
  | some index =>
    simp only [Option.bind_eq_bind, Option.bind_some]
    cases space.areas[index]? <;> simp [Area.slice_eq_map]

/-- A run of bytes that one area holds reads as the bytes at its addresses. -/
theorem Apart.readOrZero_eq_map {space : Space} (apart : space.Apart) {address length index : Nat}
    {area : Area} (atIndex : space.areas[index]? = some area) (holds : area.holds address length = true) :
    space.readOrZero address length = (List.range length).map fun offset => space.byteAt (address + offset) := by
  rcases Nat.eq_zero_or_pos length with empty | nonempty
  · subst empty
    rw [readOrZero_zero, List.range_zero, List.map_nil]
  · unfold readOrZero
    rw [apart.read?_eq nonempty atIndex holds, Option.getD_some, Area.slice_eq_map]
    apply List.map_congr_left
    intro offset member
    rw [List.mem_range] at member
    rw [Area.holds_iff] at holds
    rw [apart.byteAt_eq atIndex (by rw [Area.holds_iff]; omega)]
    congr 1
    omega

/-- A run of bytes that no area holds reads as zeros. -/
theorem readOrZero_of_not_holds {space : Space} {address length : Nat}
    (outside : ∀ index, ¬ space.Holds index address length) :
    space.readOrZero address length = List.replicate length 0 := by
  have located : space.locate? address length = none := by
    cases found : space.locate? address length with
    | none => rfl
    | some index => exact absurd (locate?_holds found) (outside index)
  simp [readOrZero, read?, located]

/-! ### Writes -/

theorem getElem?_areas_write (space : Space) (address : Nat) (bytes : List UInt8) (index : Nat) :
    (space.write address bytes).areas[index]? =
      if space.locate? address bytes.length = some index then
        space.areas[index]?.map fun area => area.store (address - area.base) bytes
      else space.areas[index]? := by
  unfold write
  split
  · rename_i missing
    simp [missing]
  · rename_i located
    rw [Array.getElem?_modify]
    simp [located]

theorem nextBase_write (space : Space) (address : Nat) (bytes : List UInt8) :
    (space.write address bytes).nextBase = space.nextBase := by
  unfold write
  split <;> rfl

theorem bounds_write (space : Space) (address : Nat) (bytes : List UInt8) :
    (space.write address bytes).areas.toList.map Area.bounds = space.areas.toList.map Area.bounds := by
  apply List.ext_getElem?
  intro index
  simp only [List.getElem?_map, Array.getElem?_toList, getElem?_areas_write]
  split
  · cases space.areas[index]? <;> rfl
  · rfl

theorem Apart.write {space : Space} (apart : space.Apart) (address : Nat) (bytes : List UInt8) :
    (space.write address bytes).Apart :=
  apart.of_bounds (bounds_write space address bytes) (nextBase_write space address bytes)

theorem holds_write_iff (space : Space) (address : Nat) (bytes : List UInt8) (index start length : Nat) :
    (space.write address bytes).Holds index start length ↔ space.Holds index start length := by
  unfold Holds
  rw [getElem?_areas_write]
  split
  · cases space.areas[index]? <;> simp
  · rfl

/-- A write changes exactly the bytes it covers, when one area holds them all. -/
theorem Apart.byteAt_write {space : Space} (apart : space.Apart) (address : Nat) (bytes : List UInt8)
    (target : Nat) :
    (space.write address bytes).byteAt target =
      if space.holds address bytes.length = true ∧ address ≤ target ∧ target < address + bytes.length then
        bytes.getD (target - address) 0
      else space.byteAt target := by
  -- a covered byte lies in the area that holds the whole write
  have covered : ∀ index, space.holds address bytes.length = true → address ≤ target →
      target < address + bytes.length → space.locate? address bytes.length = some index →
      space.Holds index target 1 := by
    intro index _ after before located
    obtain ⟨area, atIndex, holdsWrite⟩ := locate?_holds located
    rw [Area.holds_iff] at holdsWrite
    exact ⟨area, atIndex, by rw [Area.holds_iff]; omega⟩
  by_cases held : ∃ index, space.Holds index target 1
  · obtain ⟨index, area, atIndex, holdsArea⟩ := held
    obtain ⟨area', atIndex', holdsArea'⟩ :=
      (holds_write_iff space address bytes index target 1).mpr ⟨area, atIndex, holdsArea⟩
    rw [(apart.write address bytes).byteAt_eq atIndex' holdsArea', apart.byteAt_eq atIndex holdsArea]
    rw [getElem?_areas_write, atIndex] at atIndex'
    split at atIndex'
    · rename_i located
      rw [Option.map_some, Option.some.injEq] at atIndex'
      subst atIndex'
      obtain ⟨sameArea, atSame, holdsWrite⟩ := locate?_holds located
      rw [atIndex, Option.some.injEq] at atSame
      subst atSame
      have heldWrite : space.holds address bytes.length = true :=
        (holds_iff_exists space address bytes.length).mpr ⟨index, _, atIndex, holdsWrite⟩
      rw [Area.holds_iff] at holdsWrite holdsArea
      rw [Area.base_store, Area.store_byte]
      by_cases inside : address ≤ target ∧ target < address + bytes.length
      · rw [if_pos (by omega), if_pos ⟨heldWrite, inside⟩]
        congr 1
        omega
      · rw [if_neg (by omega), if_neg (fun both => inside both.2)]
    · rename_i notHere
      cases atIndex'
      rw [if_neg]
      rintro ⟨heldWrite, after, before⟩
      obtain ⟨other, located⟩ := Option.isSome_iff_exists.mp heldWrite
      have same := apart.holds_unique Nat.one_pos (covered other heldWrite after before located)
        ⟨area, atIndex, holdsArea⟩
      exact notHere (same ▸ located)
  · have heldNew : ¬ ∃ index, (space.write address bytes).Holds index target 1 := by
      rintro ⟨index, holdsNew⟩
      exact held ⟨index, (holds_write_iff space address bytes index target 1).mp holdsNew⟩
    rw [byteAt_of_not_holds (fun index holds => heldNew ⟨index, holds⟩), if_neg,
      byteAt_of_not_holds (fun index holds => held ⟨index, holds⟩)]
    rintro ⟨heldWrite, after, before⟩
    obtain ⟨other, located⟩ := Option.isSome_iff_exists.mp heldWrite
    exact held ⟨other, covered other heldWrite after before located⟩


/-- A held run of bytes reads as whatever its bytes are. -/
theorem Apart.readOrZero_eq_of_bytes {space : Space} (apart : space.Apart) {address length : Nat}
    {bytes : List UInt8} (held : space.holds address length = true) (sized : bytes.length = length)
    (agree : ∀ offset (inside : offset < length), space.byteAt (address + offset) = bytes[offset]) :
    space.readOrZero address length = bytes := by
  obtain ⟨index, area, atIndex, holdsArea⟩ := (holds_iff_exists space address length).mp held
  rw [apart.readOrZero_eq_map atIndex holdsArea]
  apply List.ext_getElem
  · simp [sized]
  · intro offset inside _
    simp only [List.length_map, List.length_range] at inside
    rw [List.getElem_map, List.getElem_range, agree offset inside]

theorem holds_write (space : Space) (address : Nat) (bytes : List UInt8) (start length : Nat) :
    (space.write address bytes).holds start length = space.holds start length := by
  apply Bool.eq_iff_iff.mpr
  rw [holds_iff_exists, holds_iff_exists]
  exact exists_congr fun index => holds_write_iff space address bytes index start length

/-! ### Reserving and unmapping -/

theorem getElem?_areas_reserve (space : Space) (size index : Nat) :
    (space.reserve size).2.areas[index]? =
      if index = space.areas.size then some { base := space.nextBase, size } else space.areas[index]? :=
  Array.getElem?_push

theorem Apart.reserve {space : Space} (apart : space.Apart) (size : Nat) : (space.reserve size).2.Apart := by
  have grows : space.nextBase + size < (space.reserve size).2.nextBase := by
    have := le_alignUp (space.nextBase + size + pageSize) pageSize
    simp only [Space.reserve, pageSize] at this ⊢
    omega
  constructor
  · intro area member
    simp only [Space.reserve, Array.toList_push, List.mem_append, List.mem_singleton] at member
    rcases member with old | fresh
    · have := apart.below area old
      omega
    · subst fresh
      simpa [Area.limit] using grows
  · simp only [Space.reserve, Array.toList_push]
    rw [List.pairwise_append]
    refine ⟨apart.ordered, List.pairwise_singleton _ _, ?_⟩
    intro area old fresh isFresh
    rw [List.mem_singleton] at isFresh
    subst isFresh
    exact apart.below area old

theorem holds_reserve {space : Space} {index address length : Nat} (size : Nat)
    (holds : space.Holds index address length) : (space.reserve size).2.Holds index address length := by
  obtain ⟨area, atIndex, holdsArea⟩ := holds
  have inRange : index < space.areas.size := (Array.getElem?_eq_some_iff.mp atIndex).1
  exact ⟨area, by rw [getElem?_areas_reserve, if_neg (by omega), atIndex], holdsArea⟩

/-- A fresh area holds the bytes it was reserved for. -/
theorem holds_reserved (space : Space) (size address length : Nat)
    (inside : space.nextBase ≤ address ∧ address + length ≤ space.nextBase + size) :
    (space.reserve size).2.Holds space.areas.size address length :=
  ⟨_, by rw [getElem?_areas_reserve, if_pos rfl], by rw [Area.holds_iff]; exact inside⟩

/-- Reserving changes no byte: a fresh area reads as zeros, as bytes outside every
area do. -/
theorem Apart.byteAt_reserve {space : Space} (apart : space.Apart) (size target : Nat) :
    (space.reserve size).2.byteAt target = space.byteAt target := by
  have reserved := apart.reserve size
  by_cases held : ∃ index, space.Holds index target 1
  · obtain ⟨index, area, atIndex, holdsArea⟩ := held
    obtain ⟨area', atIndex', holdsArea'⟩ := holds_reserve size ⟨area, atIndex, holdsArea⟩
    rw [reserved.byteAt_eq atIndex' holdsArea', apart.byteAt_eq atIndex holdsArea]
    have inRange : index < space.areas.size := (Array.getElem?_eq_some_iff.mp atIndex).1
    rw [getElem?_areas_reserve, if_neg (by omega), atIndex, Option.some.injEq] at atIndex'
    rw [atIndex']
  · rw [byteAt_of_not_holds (fun index holds => held ⟨index, holds⟩)]
    by_cases heldNew : ∃ index, (space.reserve size).2.Holds index target 1
    · obtain ⟨index, area, atIndex, holdsArea⟩ := heldNew
      rw [reserved.byteAt_eq atIndex holdsArea]
      rw [getElem?_areas_reserve] at atIndex
      split at atIndex
      · rw [Option.some.injEq] at atIndex
        subst atIndex
        exact Area.byte_fresh _ _ _
      · exact absurd ⟨index, area, atIndex, holdsArea⟩ held
    · exact byteAt_of_not_holds (fun index holds => heldNew ⟨index, holds⟩)

theorem Apart.unmap {space : Space} (apart : space.Apart) (base : Nat) : (space.unmap base).Apart := by
  constructor
  · intro area member
    simp only [Space.unmap, Array.toList_filter, List.mem_filter] at member
    exact apart.below area member.1
  · simp only [Space.unmap, Array.toList_filter]
    exact apart.ordered.filter _

theorem exists_holds_iff_mem (space : Space) (address length : Nat) :
    (∃ index, space.Holds index address length) ↔
      ∃ area ∈ space.areas.toList, area.holds address length = true := by
  constructor
  · rintro ⟨index, area, atIndex, holdsArea⟩
    exact ⟨area, Array.mem_toList_iff.mpr (Array.mem_of_getElem? atIndex), holdsArea⟩
  · rintro ⟨area, member, holdsArea⟩
    obtain ⟨index, atIndex⟩ := Array.getElem?_of_mem (Array.mem_toList_iff.mp member)
    exact ⟨index, area, atIndex, holdsArea⟩

/-- In a space whose areas lie apart, one area holds a nonempty run of bytes. -/
theorem Apart.mem_unique {space : Space} (apart : space.Apart) {address length : Nat} {one other : Area}
    (nonempty : 0 < length) (oneMember : one ∈ space.areas.toList) (otherMember : other ∈ space.areas.toList)
    (holdsOne : one.holds address length = true) (holdsOther : other.holds address length = true) :
    one = other := by
  obtain ⟨first, atFirst⟩ := Array.getElem?_of_mem (Array.mem_toList_iff.mp oneMember)
  obtain ⟨second, atSecond⟩ := Array.getElem?_of_mem (Array.mem_toList_iff.mp otherMember)
  have same := apart.holds_unique nonempty ⟨one, atFirst, holdsOne⟩ ⟨other, atSecond, holdsOther⟩
  subst same
  rw [atFirst, Option.some.injEq] at atSecond
  exact atSecond

theorem Apart.byteAt_of_mem {space : Space} (apart : space.Apart) {area : Area} {address : Nat}
    (member : area ∈ space.areas.toList) (holds : area.holds address 1 = true) :
    space.byteAt address = area.byte (address - area.base) := by
  obtain ⟨index, atIndex⟩ := Array.getElem?_of_mem (Array.mem_toList_iff.mp member)
  exact apart.byteAt_eq atIndex holds

/-- Unmapping the area at a base zeroes its bytes and keeps every other byte. -/
theorem Apart.byteAt_unmap {space : Space} (apart : space.Apart) (base target : Nat) :
    (space.unmap base).byteAt target =
      if ∃ area ∈ space.areas.toList, area.base = base ∧ area.holds target 1 = true then 0
      else space.byteAt target := by
  have kept : ∀ area, area ∈ (space.unmap base).areas.toList ↔
      area ∈ space.areas.toList ∧ area.base ≠ base := by
    intro area
    simp [Space.unmap]
  split
  · rename_i removed
    obtain ⟨area, member, atBase, holdsArea⟩ := removed
    apply byteAt_of_not_holds
    intro index holdsNew
    obtain ⟨other, otherMember, holdsOther⟩ :=
      (exists_holds_iff_mem _ target 1).mp ⟨index, holdsNew⟩
    obtain ⟨otherOld, otherBase⟩ := (kept other).mp otherMember
    have same := apart.mem_unique Nat.one_pos member otherOld holdsArea holdsOther
    subst same
    exact otherBase atBase
  · rename_i notRemoved
    by_cases held : ∃ area ∈ space.areas.toList, area.holds target 1 = true
    · obtain ⟨area, member, holdsArea⟩ := held
      have stays : area.base ≠ base := fun atBase => notRemoved ⟨area, member, atBase, holdsArea⟩
      rw [(apart.unmap base).byteAt_of_mem ((kept area).mpr ⟨member, stays⟩) holdsArea,
        apart.byteAt_of_mem member holdsArea]
    · have heldOld : ¬ ∃ index, space.Holds index target 1 :=
        fun found => held ((exists_holds_iff_mem _ target 1).mp found)
      rw [byteAt_of_not_holds (fun index holds => heldOld ⟨index, holds⟩)]
      apply byteAt_of_not_holds
      intro index holdsNew
      obtain ⟨other, otherMember, holdsOther⟩ :=
        (exists_holds_iff_mem _ target 1).mp ⟨index, holdsNew⟩
      exact held ⟨other, ((kept other).mp otherMember).1, holdsOther⟩


/-- Reads depend only on the areas. -/
theorem byteAt_of_areas {space other : Space} (same : other.areas = space.areas) (target : Nat) :
    other.byteAt target = space.byteAt target := by
  simp only [byteAt, readOrZero, read?, locate?, same]

theorem Apart.of_areas {space other : Space} (apart : space.Apart) (same : other.areas = space.areas)
    (next : other.nextBase = space.nextBase) : other.Apart :=
  apart.of_bounds (by rw [same]) next

/-- Byte buffers place their bytes in a fresh area or in a shared block that
already exists: the areas either stay or grow as a reservation makes them grow. -/
theorem reserveBytes_areas (space : Space) (size : Nat) :
    ((space.reserveBytes size).2.areas = space.areas ∧ (space.reserveBytes size).2.nextBase = space.nextBase) ∨
      ∃ reserved, (space.reserveBytes size).2.areas = (space.reserve reserved).2.areas ∧
        (space.reserveBytes size).2.nextBase = (space.reserve reserved).2.nextBase := by
  unfold reserveBytes
  split
  · exact .inr ⟨size, rfl, rfl⟩
  · dsimp only
    split
    · exact .inl ⟨rfl, rfl⟩
    · split <;> exact .inr ⟨sharedBlockSize, rfl, rfl⟩

theorem Apart.reserveBytes {space : Space} (apart : space.Apart) (size : Nat) :
    (space.reserveBytes size).2.Apart := by
  rcases reserveBytes_areas space size with ⟨same, next⟩ | ⟨reserved, same, next⟩
  · exact apart.of_areas same next
  · exact (apart.reserve reserved).of_areas same next

theorem Apart.byteAt_reserveBytes {space : Space} (apart : space.Apart) (size target : Nat) :
    (space.reserveBytes size).2.byteAt target = space.byteAt target := by
  rcases reserveBytes_areas space size with ⟨same, _⟩ | ⟨reserved, same, _⟩
  · exact byteAt_of_areas same target
  · rw [byteAt_of_areas same target, apart.byteAt_reserve]

theorem reserveBytes_of_large (space : Space) (size : Nat) (large : sharedBlockSize ≤ size) :
    space.reserveBytes size = space.reserve size := by
  unfold reserveBytes
  rw [if_pos (by simp [large])]

end Space

end HeapKit.Memory
