import Mathlib
import HeapKit.Proofs.Memory.Codec
import HeapKit.Proofs.Memory.Framing
import HeapKit.Proofs.Memory.Operations

/-!
# Words kept in band

A block's header and tail tag live in the space itself, in front of and behind its payload, as
little-endian words. A word written into a buffer long enough for it reads back as written. The
nine fields of a header sit one after another at fixed offsets of its 32 bytes (`Header.layout`),
and the 32 bytes of a header are the encoding of what they decode to (`Header.encode_decode`).

So, in a space whose areas lie apart, a header stored in front of a held payload loads back as
stored and changes no byte outside its 32; a tail tag reads back at any offset; storing the
loaded header marked freed changes only the bytes of its two tags; and claiming the front tag
turns a live tag into a freed one once, every later claim finding nothing to do.

`inBand_words_read_back` gathers these.
-/

namespace HeapKit

namespace Endian

theorem readLE_lt (width : Nat) (bytes : List UInt8) : readLE width bytes < Nat.pow 256 width := by
  unfold readLE
  split
  · exact Nat.pow_pos (by decide)
  · have bound := valueLE_lt (bytes.take width)
    rwa [List.length_take, Nat.min_eq_left (by omega)] at bound

/-- A field read from enough bytes is canonical: its bytes are the first ones. -/
theorem bytesLE_readLE {width : Nat} {bytes : List UInt8} (long : width ≤ bytes.length) :
    bytesLE width (readLE width bytes) = bytes.take width := by
  have sized : (bytes.take width).length = width := by simp; omega
  have canonical := bytesLE_valueLE (bytes.take width)
  rw [sized] at canonical
  rw [readLE, if_neg (by omega), canonical]

theorem toNat_read16 (bytes : List UInt8) : (read16 bytes).toNat = readLE 2 bytes := by
  simp only [read16, Nat.toUInt16, UInt16.toNat_ofNat']
  exact Nat.mod_eq_of_lt (readLE_lt 2 bytes)

theorem toNat_read32 (bytes : List UInt8) : (read32 bytes).toNat = readLE 4 bytes := by
  simp only [read32, Nat.toUInt32, UInt32.toNat_ofNat']
  exact Nat.mod_eq_of_lt (readLE_lt 4 bytes)

theorem toNat_read64 (bytes : List UInt8) : (read64 bytes).toNat = readLE 8 bytes := by
  simp only [read64, Nat.toUInt64, UInt64.toNat_ofNat']
  exact Nat.mod_eq_of_lt (readLE_lt 8 bytes)

theorem read16_write16 {bytes : List UInt8} (long : 2 ≤ bytes.length) (value : UInt16) :
    read16 (write16 bytes value) = value := by
  rw [write16, writeLE, if_neg (by omega), read16_bytesLE]

theorem read32_write32 {bytes : List UInt8} (long : 4 ≤ bytes.length) (value : UInt32) :
    read32 (write32 bytes value) = value := by
  rw [write32, writeLE, if_neg (by omega), read32_bytesLE]

theorem read64_write64 {bytes : List UInt8} (long : 8 ≤ bytes.length) (value : UInt64) :
    read64 (write64 bytes value) = value := by
  rw [write64, writeLE, if_neg (by omega), read64_bytesLE]

theorem bytesLE_one (byte : UInt8) : bytesLE 1 byte.toNat = [byte] := by
  simp [bytesLE, Nat.mod_eq_of_lt byte.toNat_lt]

/-- A field reads only its own bytes. -/
theorem readLE_take (width : Nat) (bytes : List UInt8) :
    readLE width (bytes.take width) = readLE width bytes := by
  unfold readLE
  by_cases short : bytes.length < width
  · rw [List.take_of_length_le (by omega), if_pos short, if_pos short]
  · rw [List.take_take, Nat.min_self, if_neg (by simp; omega), if_neg short]

end Endian

namespace Memory

open Endian

namespace Header

/-- A field of a header: where its bytes start among the header's 32, how many there are, and
the number they hold. -/
structure Field where
  offset : Nat
  width : Nat
  value : Header → Nat

/-- The nine fields of a header, in the order they are laid out. -/
def layout : List Field :=
  [⟨0, 4, fun header => header.front.toNat⟩, ⟨4, 1, fun header => header.kind.toNat⟩,
    ⟨5, 1, fun header => header.flags.toNat⟩, ⟨6, 2, fun header => header.alignment.toNat⟩,
    ⟨8, 8, fun header => header.length.toNat⟩, ⟨16, 4, fun header => header.slot.toNat⟩,
    ⟨20, 4, fun header => header.offset.toNat⟩, ⟨24, 4, fun header => header.back.toNat⟩,
    ⟨28, 4, fun header => header.slack.toNat⟩]

/-- Each field of an encoded header is its value, little-endian, at its offset. -/
theorem encode_field (header : Header) : ∀ field ∈ layout,
    (header.encode.drop field.offset).take field.width = bytesLE field.width (field.value header) := by
  simp only [layout, List.forall_mem_cons, List.not_mem_nil, IsEmpty.forall_iff, implies_true,
    and_true]
  simp [encode, bytesLE_one, List.drop_append, List.take_append, length_bytesLE,
    List.drop_eq_nil_of_le, List.take_of_length_le]

/-- The 32 bytes of a header are the encoding of the header they decode to. -/
theorem encode_decode {bytes : List UInt8} (sized : bytes.length = 32) : (decode bytes).encode = bytes := by
  have long : ∀ start width, start + width ≤ 32 → width ≤ (bytes.drop start).length := by
    intro start width inside
    rw [List.length_drop, sized]
    omega
  -- the fields' bytes, read back in order, tile the header from each offset to its end
  have tile : ∀ start width finish, finish = start + width →
      (bytes.drop start).take width ++ bytes.drop finish = bytes.drop start := by
    intro start width finish finishes
    rw [finishes, ← List.drop_drop, List.take_append_drop]
  have single : ∀ position, position < 32 →
      byteAt bytes position :: bytes.drop (position + 1) = bytes.drop position := by
    intro position below
    rw [byteAt, List.drop_eq_getElem_cons (by omega), List.headD_cons]
  rw [encode, decode]
  simp only [toNat_read16, toNat_read32, toNat_read64]
  rw [bytesLE_readLE (by omega), bytesLE_readLE (long 6 2 (by omega)), bytesLE_readLE (long 8 8 (by omega)),
    bytesLE_readLE (long 16 4 (by omega)), bytesLE_readLE (long 20 4 (by omega)),
    bytesLE_readLE (long 24 4 (by omega)), bytesLE_readLE (long 28 4 (by omega))]
  simp only [List.append_assoc, List.cons_append, List.nil_append]
  rw [List.take_of_length_le (by rw [List.length_drop, sized] : (bytes.drop 28).length ≤ 4),
    tile 24 4 28 rfl, tile 20 4 24 rfl, tile 16 4 20 rfl, tile 8 8 16 rfl, tile 6 2 8 rfl,
    single 5 (by omega), single 4 (by omega), List.take_append_drop]

/-- Replacing two runs of a list by runs of the same lengths keeps every other position. -/
theorem getD_append_replace {first first' middle second second' rest : List UInt8}
    (sameFirst : first'.length = first.length) (sameSecond : second'.length = second.length)
    {position : Nat} (afterFirst : first.length ≤ position)
    (offSecond : position < first.length + middle.length ∨
      first.length + middle.length + second.length ≤ position) :
    (first' ++ middle ++ second' ++ rest).getD position 0 =
      (first ++ middle ++ second ++ rest).getD position 0 := by
  simp only [List.getD_eq_getElem?_getD, List.getElem?_append, List.length_append, sameFirst,
    sameSecond]
  split_ifs <;> first | rfl | omega

/-- Marking a header freed changes only the bytes of its two tags. -/
theorem getD_encode_markFreed (header : Header) {position : Nat} (afterFront : 4 ≤ position)
    (offBack : position < 24 ∨ 28 ≤ position) :
    header.markFreed.encode.getD position 0 = header.encode.getD position 0 := by
  -- the encoding is the front tag, twenty bytes marking leaves alone, the back tag and the slack
  have split : ∀ header : Header, header.encode = bytesLE 4 header.front.toNat ++
      ([header.kind, header.flags] ++ bytesLE 2 header.alignment.toNat ++
        bytesLE 8 header.length.toNat ++ bytesLE 4 header.slot.toNat ++
        bytesLE 4 header.offset.toNat) ++ bytesLE 4 header.back.toNat ++ bytesLE 4 header.slack.toNat := by
    intro header
    simp only [encode, List.append_assoc, List.cons_append, List.nil_append]
  rw [split, split]
  exact getD_append_replace (by simp only [length_bytesLE]) (by simp only [length_bytesLE])
    (by simp only [length_bytesLE]; omega)
    (by simp only [length_bytesLE, List.length_append, List.length_cons, List.length_nil]; omega)

/-- A header whose front tag bytes are replaced decodes with that front tag and every other field
as it was. -/
theorem decode_replace_front (value : UInt32) (bytes : List UInt8) :
    decode (bytesLE 4 value.toNat ++ bytes.drop 4) = { decode bytes with front := value } := by
  simp (disch := omega) only [decode, read32_bytesLE, byteAt, drop_bytesLE_append, List.drop_drop,
    Nat.reduceSub, Nat.reduceAdd]

theorem layout_within : ∀ field ∈ layout, field.offset + field.width ≤ headerSize := by
  decide

end Header

namespace Space

variable {space : Space} {address length : Nat}

/-- A held run of bytes reads, from an offset within it, as that part of its reading. -/
theorem Apart.readOrZero_within (apart : space.Apart) (held : space.holds address length = true)
    (offset width : Nat) (inside : offset + width ≤ length) :
    space.readOrZero (address + offset) width =
      ((space.readOrZero address length).drop offset).take width := by
  rw [apart.readOrZero_eq_bytes (holds_of_within held (by omega) (by omega)),
    apart.readOrZero_eq_bytes held]
  apply List.ext_getElem
  · simp only [List.length_map, List.length_range, List.length_take, List.length_drop]
    omega
  · intro position inLeft _
    simp only [List.length_map, List.length_range] at inLeft
    simp only [List.getElem_map, List.getElem_range, List.getElem_take, List.getElem_drop,
      Nat.add_assoc]

/-- A write that one area holds reads back as written over a run of its length. -/
theorem Apart.readOrZero_write_sized (apart : space.Apart) {bytes : List UInt8}
    (sized : bytes.length = length) (held : space.holds address length = true) :
    (space.write address bytes).readOrZero address length = bytes := by
  subst sized
  exact apart.readOrZero_write_self held

/-- A write at the front of a held run of bytes reads, over the run, as the written bytes and
then the rest of the run as it was. -/
theorem Apart.readOrZero_write_front (apart : space.Apart) (held : space.holds address length = true)
    {bytes : List UInt8} (short : bytes.length ≤ length) :
    (space.write address bytes).readOrZero address length =
      bytes ++ (space.readOrZero address length).drop bytes.length := by
  have heldBytes : space.holds address bytes.length = true :=
    holds_of_within held le_rfl (by omega)
  rw [(apart.write address bytes).readOrZero_eq_bytes (by rw [holds_write]; exact held),
    apart.readOrZero_eq_bytes held]
  apply List.ext_getElem
  · simp only [List.length_map, List.length_range, List.length_append, List.length_drop]
    omega
  · intro position inLeft _
    simp only [List.length_map, List.length_range] at inLeft
    rw [List.getElem_map, List.getElem_range, apart.byteAt_write, List.getElem_append]
    by_cases written : position < bytes.length
    · rw [if_pos ⟨heldBytes, by omega, by omega⟩, dif_pos written, Nat.add_sub_cancel_left,
        List.getD_eq_getElem?_getD, List.getElem?_eq_getElem written, Option.getD_some]
    · rw [if_neg (by omega), dif_neg written]
      simp only [List.getElem_drop, List.getElem_map, List.getElem_range]
      congr 1
      omega

end Space

namespace Allocator

/-- The header in front of a payload, as its bytes read now. -/
def headerAt (allocator : Allocator) (payload : Nat) : Header :=
  Header.decode (allocator.space.readOrZero (payload - headerSize) headerSize)

@[simp] theorem storeHeader_run (payload : Nat) (header : Header) (allocator : Allocator) :
    (storeHeader payload header).run.run allocator =
      (.ok (), { allocator with space := allocator.space.write (payload - headerSize) header.encode }) :=
  rfl

@[simp] theorem storeTail_run (payload offset : Nat) (tag : UInt32) (allocator : Allocator) :
    (storeTail payload offset tag).run.run allocator =
      (.ok (), { allocator with space := allocator.space.write (payload + offset) (bytesLE 4 tag.toNat) }) :=
  rfl

/-- A claim on a front tag that does not read as live loses and changes nothing. -/
theorem claimFront_of_not_live {allocator : Allocator} {payload : Nat}
    (notLive : read32 (allocator.space.readOrZero (payload - headerSize) 4) ≠ liveFrontTag) :
    (claimFront payload).run.run allocator = (.ok false, allocator) := by
  simp only [claimFront, readBytes, run_bind, run_get, run_pure, beq_iff_eq, notLive, if_false]

/-- A claim on the front tag of a live header wins and writes the freed tag over it. -/
theorem claimFront_of_live {allocator : Allocator} {payload : Nat} (apart : allocator.space.Apart)
    (held : allocator.space.holds (payload - headerSize) headerSize = true)
    (live : (allocator.headerAt payload).front = liveFrontTag) :
    (claimFront payload).run.run allocator =
      (.ok true, { allocator with
        space := allocator.space.write (payload - headerSize) (bytesLE 4 freedTag.toNat) }) := by
  have front : read32 (allocator.space.readOrZero (payload - headerSize) 4) = liveFrontTag := by
    have within := apart.readOrZero_within held 0 4 (by decide)
    rw [Nat.add_zero, List.drop_zero] at within
    rw [within, read32, readLE_take]
    exact live
  simp only [claimFront, readBytes, run_bind, run_get, run_pure, writeBytes_run, front, beq_self_eq_true,
    if_true]

section Stored

variable {allocator : Allocator} {payload : Nat} (apart : allocator.space.Apart)
  (held : allocator.space.holds (payload - headerSize) headerSize = true)
include apart held

/-- A header stored in front of a held payload is what its 32 bytes then read. -/
theorem readOrZero_storeHeader (header : Header) :
    ((storeHeader payload header).run.run allocator).2.space.readOrZero (payload - headerSize)
      headerSize = header.encode :=
  apart.readOrZero_write_sized (Header.length_encode header) held

/-- A header stored in front of a held payload loads back as it was stored. -/
theorem loadHeader_after_storeHeader (header : Header) :
    (storeHeader payload header >>= fun _ => loadHeader payload).run.run allocator =
      (.ok header, { allocator with
        space := allocator.space.write (payload - headerSize) header.encode }) := by
  have written := readOrZero_storeHeader apart held header
  simp only [run_bind, storeHeader_run, loadHeader_run] at written ⊢
  rw [written, Header.decode_encode]

/-- Storing a header writes each of its fields, little-endian, at the field's offset. -/
theorem readOrZero_storeHeader_field (header : Header) {field : Header.Field}
    (member : field ∈ Header.layout) :
    ((storeHeader payload header).run.run allocator).2.space.readOrZero
        (payload - headerSize + field.offset) field.width =
      bytesLE field.width (field.value header) := by
  have written := readOrZero_storeHeader apart held header
  rw [storeHeader_run] at written ⊢
  rw [(apart.write _ _).readOrZero_within (by rw [Space.holds_write]; exact held)
    field.offset field.width (Header.layout_within field member), written]
  exact header.encode_field field member

/-- Storing the header in front of a payload marked freed changes only the bytes of its two
tags. -/
theorem byteAt_storeHeader_markFreed {target : Nat}
    (offFront : ¬ (payload - headerSize ≤ target ∧ target < payload - headerSize + 4))
    (offBack : ¬ (payload - headerSize + 24 ≤ target ∧ target < payload - headerSize + 28)) :
    ((storeHeader payload (allocator.headerAt payload).markFreed).run.run allocator).2.space.byteAt
        target = allocator.space.byteAt target := by
  have bytes := apart.readOrZero_eq_bytes held
  have sized : (allocator.space.readOrZero (payload - headerSize) headerSize).length = 32 := by
    rw [bytes, List.length_map, List.length_range]
    rfl
  have size : headerSize = 32 := rfl
  rw [storeHeader_run, apart.byteAt_write]
  split
  · rename_i inside
    obtain ⟨-, after, before⟩ := inside
    rw [Header.length_encode] at before
    rw [Header.getD_encode_markFreed _ (by omega) (by omega), headerAt, Header.encode_decode sized,
      bytes, List.getD_eq_getElem?_getD, List.getElem?_map, List.getElem?_range (by omega),
      Option.map_some, Option.getD_some, Nat.add_sub_cancel' after]
  · rfl

/-- A claim on the front tag of a live header leaves the header with a freed front tag and every
other field as it was, and a claim after it loses and changes nothing. -/
theorem claimFront_once (live : (allocator.headerAt payload).front = liveFrontTag) :
    ∃ claimed : Allocator, (claimFront payload).run.run allocator = (.ok true, claimed) ∧
      claimed.headerAt payload = { allocator.headerAt payload with front := freedTag } ∧
      (claimFront payload).run.run claimed = (.ok false, claimed) := by
  have heldFront : allocator.space.holds (payload - headerSize) 4 = true :=
    Space.holds_of_within held le_rfl (by unfold headerSize; omega)
  refine ⟨_, claimFront_of_live apart held live, ?_, claimFront_of_not_live ?_⟩
  · unfold headerAt
    rw [apart.readOrZero_write_front held (by rw [length_bytesLE]; decide), length_bytesLE,
      Header.decode_replace_front]
  · rw [apart.readOrZero_write_sized (length_bytesLE 4 _) heldFront, read32_bytesLE_self]
    decide

end Stored

/-- Storing a header changes no byte outside its 32. -/
theorem byteAt_storeHeader_of_outside {allocator : Allocator} (apart : allocator.space.Apart)
    {payload : Nat} (header : Header) {target : Nat}
    (outside : target < payload - headerSize ∨ payload - headerSize + headerSize ≤ target) :
    ((storeHeader payload header).run.run allocator).2.space.byteAt target =
      allocator.space.byteAt target := by
  rw [storeHeader_run, apart.byteAt_write, if_neg]
  rintro ⟨-, after, before⟩
  rw [Header.length_encode] at before
  have size : headerSize = 32 := rfl
  omega

/-- A tail tag stored at any offset whose four bytes are held loads back as it was stored. -/
theorem loadTail_after_storeTail {allocator : Allocator} (apart : allocator.space.Apart)
    {payload offset : Nat} (held : allocator.space.holds (payload + offset) 4 = true) (tag : UInt32) :
    (storeTail payload offset tag >>= fun _ => loadTail payload offset).run.run allocator =
      (.ok tag, { allocator with
        space := allocator.space.write (payload + offset) (bytesLE 4 tag.toNat) }) := by
  simp only [run_bind, storeTail_run, loadTail_run]
  rw [apart.readOrZero_write_sized (length_bytesLE 4 tag.toNat) held, read32_bytesLE_self]

/-- What storing and loading the words kept in band at a payload do. -/
structure InBandLaws (allocator : Allocator) (payload : Nat) : Prop where
  /-- Any header stored loads back as it was stored. -/
  load_store : ∀ header : Header,
    ((storeHeader payload header >>= fun _ => loadHeader payload).run.run allocator).1 = .ok header
  /-- Storing a header writes each field, little-endian, at its offset. -/
  fields_stored : ∀ header : Header, ∀ field ∈ Header.layout,
    ((storeHeader payload header).run.run allocator).2.space.readOrZero
      (payload - headerSize + field.offset) field.width = bytesLE field.width (field.value header)
  /-- Storing a header changes no byte outside its 32. -/
  store_outside : ∀ (header : Header) (target : Nat),
    target < payload - headerSize ∨ payload - headerSize + headerSize ≤ target →
    ((storeHeader payload header).run.run allocator).2.space.byteAt target = allocator.space.byteAt target
  /-- A tail tag stored at any offset whose four bytes are held loads back as it was stored. -/
  tail_load_store : ∀ (offset : Nat) (tag : UInt32), allocator.space.holds (payload + offset) 4 = true →
    ((storeTail payload offset tag >>= fun _ => loadTail payload offset).run.run allocator).1 = .ok tag
  /-- Storing the header marked freed changes only the bytes of its two tags. -/
  mark_outside_tags : ∀ target : Nat,
    ¬ (payload - headerSize ≤ target ∧ target < payload - headerSize + 4) →
    ¬ (payload - headerSize + 24 ≤ target ∧ target < payload - headerSize + 28) →
    ((storeHeader payload (allocator.headerAt payload).markFreed).run.run allocator).2.space.byteAt
      target = allocator.space.byteAt target
  /-- The header marked freed loads back freed, with every field but its tags as it was. -/
  mark_loads : ((storeHeader payload (allocator.headerAt payload).markFreed >>= fun _ =>
      loadHeader payload).run.run allocator).1 =
        .ok { allocator.headerAt payload with front := freedTag, back := freedTag } ∧
    ({ allocator.headerAt payload with front := freedTag, back := freedTag } : Header).isFreed = true
  /-- A claim on a live front tag wins and leaves it freed with every other field as it was; a
  claim after it loses and changes nothing, so every later claim loses. -/
  claim_once : (allocator.headerAt payload).front = liveFrontTag →
    ∃ claimed : Allocator, (claimFront payload).run.run allocator = (.ok true, claimed) ∧
      claimed.headerAt payload = { allocator.headerAt payload with front := freedTag } ∧
      (claimFront payload).run.run claimed = (.ok false, claimed)

/-- Little-endian words of two, four and eight bytes read back as written. A header lays its nine
fields out at fixed offsets, each little-endian. In a space whose areas lie apart, the header in
front of a held payload loads back as any header stored there, storing it changes no byte
outside its 32, a tail tag loads back at any held offset, marking the header freed changes only
its two tags, and a claim on a live front tag wins once. -/
theorem inBand_words_read_back :
    (∀ (bytes : List UInt8) (value : UInt16), 2 ≤ bytes.length → read16 (write16 bytes value) = value) ∧
    (∀ (bytes : List UInt8) (value : UInt32), 4 ≤ bytes.length → read32 (write32 bytes value) = value) ∧
    (∀ (bytes : List UInt8) (value : UInt64), 8 ≤ bytes.length → read64 (write64 bytes value) = value) ∧
    (∀ header : Header, ∀ field ∈ Header.layout,
      (header.encode.drop field.offset).take field.width = bytesLE field.width (field.value header)) ∧
    ∀ (allocator : Allocator) (payload : Nat), allocator.space.Apart →
      allocator.space.holds (payload - headerSize) headerSize = true → allocator.InBandLaws payload := by
  refine ⟨fun bytes value long => read16_write16 long value, fun bytes value long => read32_write32 long value,
    fun bytes value long => read64_write64 long value, Header.encode_field, ?_⟩
  intro allocator payload apart held
  refine ⟨fun header => by rw [loadHeader_after_storeHeader apart held],
    fun header field member => readOrZero_storeHeader_field apart held header member,
    fun header target outside => byteAt_storeHeader_of_outside apart header outside,
    fun offset tag tailHeld => by rw [loadTail_after_storeTail apart tailHeld],
    fun target offFront offBack => byteAt_storeHeader_markFreed apart held offFront offBack,
    ⟨by rw [loadHeader_after_storeHeader apart held]; rfl, by simp [Header.isFreed]⟩,
    claimFront_once apart held⟩

/-- The header at the start of the first area reserved in an empty space obeys the laws. -/
theorem inBand_words_read_back_first_area :
    ((Space.empty.reserve 64).2.Apart ∧
      (Space.empty.reserve 64).2.holds (firstBase + headerSize - headerSize) headerSize = true) ∧
    ({ space := (Space.empty.reserve 64).2 } : Allocator).InBandLaws (firstBase + headerSize) := by
  have apart := Space.room_empty.apart.reserve 64
  have held : (Space.empty.reserve 64).2.holds (firstBase + headerSize - headerSize) headerSize =
      true := by
    decide
  exact ⟨⟨apart, held⟩, inBand_words_read_back.2.2.2.2 _ _ apart held⟩

end Allocator

end Memory

end HeapKit
