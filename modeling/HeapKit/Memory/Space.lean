import HeapKit.Memory.Header

/-!
# Address space

The bytes that blocks live in. The space is a set of areas, each a run of bytes
at a base address; a fresh area is zeroed and placed above every earlier one,
on a page boundary and a page apart, so that no two areas touch. A read or
write is answered only when it falls inside one area; anything else reads
nothing and writes nothing.

Byte buffers below 16 bytes are packed into shared 16-byte blocks: each
buffer starts at the next offset that is a multiple of the largest power of two
up to 8 dividing its size, and a buffer that does not fit starts a new block,
which replaces the current one when it has more room left. The first block is
taken as already holding 7 bytes.

Areas are only ever added, except that an area mapped on its own may be
unmapped again. An area keeps only the bytes up to the last one written; every
byte after them reads as zero, so a large area costs nothing until it is used.
-/

namespace HeapKit.Memory

/-- A run of `size` bytes at a base address: the stored bytes, then zeros up to
the size. -/
structure Area where
  base : Nat
  size : Nat
  stored : ByteArray := ByteArray.empty

namespace Area

/-- The address after the last byte. -/
def limit (area : Area) : Nat := area.base + area.size

/-- `length` bytes from offset `start`, zeros past the stored ones. -/
def slice (area : Area) (start length : Nat) : List UInt8 :=
  let kept := (area.stored.extract start (start + length)).toList
  kept ++ List.replicate (length - kept.length) 0

/-- Writes bytes at offset `start`, storing zeros up to them first. -/
def store (area : Area) (start : Nat) (bytes : List UInt8) : Area :=
  let needed := start + bytes.length
  let stored :=
    if area.stored.size < needed then
      area.stored ++ ByteArray.mk (Array.replicate (needed - area.stored.size) 0)
    else area.stored
  { area with stored := ByteArray.copySlice (ByteArray.mk bytes.toArray) 0 stored start bytes.length }

/-- Whether `length` bytes from `address` lie inside the area. -/
def holds (area : Area) (address length : Nat) : Bool :=
  area.base ≤ address && address + length ≤ area.limit

end Area

/-- Bytes between consecutive areas and the boundary every area starts on. -/
def pageSize : Nat := 4096

/-- The base of the first area. -/
def firstBase : Nat := 0xc000010000

/-- Bytes of a block that small buffers share. -/
def sharedBlockSize : Nat := 16

/-- The base of the first shared block. -/
def firstSharedBlock : Nat := firstBase - pageSize

/-- All areas, where the next one may start, and the shared block that small
buffers are packed into, with its first free offset. -/
structure Space where
  areas : Array Area := #[{ base := firstSharedBlock, size := sharedBlockSize }]
  nextBase : Nat := firstBase
  sharedBlock : Nat := firstSharedBlock
  sharedOffset : Nat := 7

namespace Space

/-- The empty space. -/
def empty : Space := {}

/-- Places a zeroed area of `size` bytes and returns its base. -/
def reserve (size : Nat) (space : Space) : Nat × Space :=
  let base := space.nextBase
  let next := alignUp (base + size + pageSize) pageSize
  (base, { space with areas := space.areas.push { base, size }, nextBase := next })

/-- The alignment of a small buffer: the largest power of two up to 8 that
divides its size. -/
def smallAlignment (size : Nat) : Nat :=
  if size % 8 == 0 then 8 else if size % 4 == 0 then 4 else if size % 2 == 0 then 2 else 1

/-- Places a zeroed byte buffer of `size` bytes and returns its address; buffers
below the shared block size are packed into shared blocks. -/
def reserveBytes (size : Nat) (space : Space) : Nat × Space :=
  if size == 0 || sharedBlockSize ≤ size then space.reserve size
  else
    let offset := alignUp space.sharedOffset (smallAlignment size)
    if offset + size ≤ sharedBlockSize then
      (space.sharedBlock + offset, { space with sharedOffset := offset + size })
    else
      let (block, space) := space.reserve sharedBlockSize
      if size < space.sharedOffset then (block, { space with sharedBlock := block, sharedOffset := size })
      else (block, space)

/-- The position of the latest area that holds `length` bytes from `address`. -/
def locate? (address length : Nat) (space : Space) : Option Nat :=
  (List.range space.areas.size).reverse.find? fun index =>
    match space.areas[index]? with
    | some area => area.holds address length
    | none => false

/-- Whether `length` bytes from `address` lie inside one area. -/
def holds (address length : Nat) (space : Space) : Bool := (space.locate? address length).isSome

/-- The `length` bytes from `address`, when they lie inside one area. -/
def read? (address length : Nat) (space : Space) : Option (List UInt8) := do
  let index ← space.locate? address length
  let area ← space.areas[index]?
  pure (area.slice (address - area.base) length)

/-- The bytes from `address`, or zeros where the space holds none. -/
def readOrZero (address length : Nat) (space : Space) : List UInt8 :=
  (space.read? address length).getD (List.replicate length 0)

/-- Writes bytes from `address` when they lie inside one area. -/
def write (address : Nat) (bytes : List UInt8) (space : Space) : Space :=
  match space.locate? address bytes.length with
  | none => space
  | some index =>
    { space with
      areas := space.areas.modify index fun area => area.store (address - area.base) bytes }

/-- Sets `length` bytes from `address` to one value. -/
def fill (address length : Nat) (value : UInt8) (space : Space) : Space :=
  space.write address (List.replicate length value)

/-- Removes the area that starts at `base`. -/
def unmap (base : Nat) (space : Space) : Space :=
  { space with areas := space.areas.filter fun area => area.base != base }

end Space

end HeapKit.Memory
