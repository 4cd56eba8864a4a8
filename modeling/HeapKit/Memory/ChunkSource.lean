import HeapKit.Memory.Space

/-!
# Chunk source

A source of byte regions that carves them out of large chunks. Regions are cut
from the current chunk one after another, each on a word boundary. A request
larger than the chunk size gets a chunk of its own; a request that no longer
fits starts a new current chunk, and the old one is dropped when nothing carved
from it is still in use.

Every chunk counts the regions carved from it that are still in use. When a
release brings that count to zero, the current chunk is cleared up to its
offset and carving starts from its beginning again, so the same addresses are
handed out once more; any other chunk is dropped. A release of bytes that lie in
no chunk is ignored.
-/

namespace HeapKit.Memory

/-- A chunk: its bytes in the space, how far it has been carved, and how many of
its regions are in use. The count can fall below zero when a region is released
twice. -/
structure Chunk where
  base : Nat
  size : Nat
  offset : Nat
  live : Int
  deriving Repr, Inhabited

/-- The chunks, ordered by base address, the size of a chunk, and the base of the
current chunk. -/
structure ChunkSource where
  chunkSize : Nat
  chunks : List Chunk
  current : Nat
  deriving Repr, Inhabited

/-- The chunk size that a size of zero or less selects. -/
def defaultChunkSize : Nat := 65536

/-- Counters that describe a chunk source. -/
structure ChunkMetrics where
  sizeInUse : Nat
  capacity : Nat
  chunkCount : Nat
  liveRegions : Int
  chunkSize : Nat
  deriving Repr, Inhabited

namespace ChunkSource

/-- Inserts a chunk in base order. -/
def insertChunk (chunk : Chunk) : List Chunk → List Chunk
  | [] => [chunk]
  | first :: rest =>
    if chunk.base < first.base then chunk :: first :: rest else first :: insertChunk chunk rest

/-- Adds a fresh chunk of at least the chunk size and at least `least` bytes. -/
def grow (least : Nat) (source : ChunkSource) (space : Space) : Chunk × ChunkSource × Space :=
  let size := max source.chunkSize least
  let (base, space) := space.reserveBytes size
  let chunk : Chunk := { base, size, offset := 0, live := 0 }
  (chunk, { source with chunks := insertChunk chunk source.chunks }, space)

/-- A source whose first chunk is current. A size of zero or less selects the
default. -/
def create (chunkSize : Int) (space : Space) : ChunkSource × Space :=
  let size := if chunkSize ≤ 0 then defaultChunkSize else chunkSize.toNat
  let (chunk, source, space) := grow size { chunkSize := size, chunks := [], current := 0 } space
  ({ source with current := chunk.base }, space)

/-- The chunk at a base. -/
def chunkAt? (base : Nat) (source : ChunkSource) : Option Chunk :=
  source.chunks.find? fun chunk => chunk.base == base

/-- Replaces the chunk with the same base. -/
def update (chunk : Chunk) (source : ChunkSource) : ChunkSource :=
  { source with chunks := source.chunks.map fun other => if other.base == chunk.base then chunk else other }

/-- Forgets the chunk at a base. -/
def drop (base : Nat) (source : ChunkSource) : ChunkSource :=
  { source with chunks := source.chunks.filter fun chunk => chunk.base != base }

/-- Carves `length` bytes from a chunk at its next word boundary. -/
def carve (chunk : Chunk) (length : Nat) (source : ChunkSource) : Nat × ChunkSource :=
  let start := alignUp chunk.offset minimumAlignment
  (chunk.base + start, source.update { chunk with offset := start + length, live := chunk.live + 1 })

/-- A region of `length` bytes, or none for a length of zero or less. -/
def alloc (length : Int) (source : ChunkSource) (space : Space) :
    Option Nat × ChunkSource × Space :=
  if length ≤ 0 then (none, source, space)
  else
    let length := length.toNat
    if source.chunkSize < length then
      let (chunk, source, space) := source.grow length space
      let (address, source) := source.carve chunk length
      (some address, source, space)
    else
      match source.chunkAt? source.current with
      | some chunk =>
        if alignUp chunk.offset minimumAlignment + length ≤ chunk.size then
          let (address, source) := source.carve chunk length
          (some address, source, space)
        else
          let source := if chunk.live == 0 then source.drop chunk.base else source
          let (fresh, source, space) := source.grow source.chunkSize space
          let (address, source) := { source with current := fresh.base }.carve fresh length
          (some address, source, space)
      | none =>
        let (fresh, source, space) := source.grow source.chunkSize space
        let (address, source) := { source with current := fresh.base }.carve fresh length
        (some address, source, space)

/-- The last chunk whose base is at or below an address. -/
def chunkBelow? (address : Nat) (source : ChunkSource) : Option Chunk :=
  (source.chunks.filter fun chunk => chunk.base ≤ address).getLast?

/-- Gives back the region of `length` bytes at `address`. -/
def release (address length : Nat) (source : ChunkSource) (space : Space) : ChunkSource × Space :=
  if length = 0 then (source, space)
  else
    match source.chunkBelow? address with
    | none => (source, space)
    | some chunk =>
      if chunk.base + chunk.size ≤ address then (source, space)
      else
        let chunk := { chunk with live := chunk.live - 1 }
        if 0 < chunk.live then (source.update chunk, space)
        else if chunk.base == source.current then
          (source.update { chunk with offset := 0 }, space.fill chunk.base chunk.offset 0)
        else (source.drop chunk.base, space)

/-- The counters of the source. -/
def metrics (source : ChunkSource) : ChunkMetrics where
  sizeInUse := source.chunks.foldl (fun total chunk => total + chunk.offset) 0
  capacity := source.chunks.foldl (fun total chunk => total + chunk.size) 0
  chunkCount := source.chunks.length
  liveRegions := source.chunks.foldl (fun total chunk => total + chunk.live) 0
  chunkSize := source.chunkSize

end ChunkSource

end HeapKit.Memory
