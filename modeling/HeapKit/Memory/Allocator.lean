import HeapKit.Memory.ChunkSource
import HeapKit.Memory.Error
import HeapKit.Memory.Report
import HeapKit.Memory.Memlist
import HeapKit.Memory.Metrics

/-!
# The allocator

A checked block allocator. Every block is framed by a header and a tail (see
`Header`), so that a free can tell a live block from a freed, foreign or
overwritten one. Byte blocks take their memory from a source: the heap, a
chunk source, or a mapping of their own. Typed blocks live in frames: a header,
room for the elements rounded up to a size class, and a tail.

The bookkeeping has two strategies. The counting backend keeps three counters
and trusts the header of a block it is asked to free. The tracking backend keeps
every live block in a list (see `Memlist`), checks a header against its entry,
checks the whole list when it finds damage, and remembers recently freed
addresses to name the block of a double free.

Operations run in `AllocM`: they change the allocator's state, including its
journal of reports, and may stop with a fault; what they changed before they
stopped stays changed. An error that an operation returns is a value of
`MemError`; a block error is reported before it is returned.
-/

namespace HeapKit.Memory

open HeapKit.Endian

/-- Where byte blocks get their memory. -/
inductive Source where
  /-- A fresh zeroed buffer for every block. -/
  | heap
  /-- Regions carved from chunks. -/
  | chunk (source : ChunkSource)
  /-- A mapping of its own for every block, unmapped when the block is freed. -/
  | mmap
  deriving Repr, Inhabited

/-- The largest mapping the system grants. -/
def mappingLimit : Nat := Nat.pow 2 47

/-- The largest value of a machine integer. -/
def maxInt : Nat := Nat.pow 2 63 - 1

/-- Settings fixed when the allocator is made. -/
structure Settings where
  maxBlockSize : Nat := 0
  debugMemset : Bool := false
  failOnLeak : Bool := false
  freedHistory : Int := 4096
  deriving Repr, Inhabited

/-- The counters of the counting backend. They are signed: a forged live
header can make a free count a block twice. -/
structure Counters where
  blocks : Int := 0
  bytes : Int := 0
  peak : Int := 0
  deriving Repr, Inhabited

/-- The state of the tracking backend. -/
structure Tracker where
  list : Memlist := {}
  history : Option FreedHistory := none
  blocks : Nat := 0
  bytes : Nat := 0
  peak : Nat := 0
  deriving Repr, Inhabited

/-- The bookkeeping backend. -/
inductive Backend where
  | lockfree (counters : Counters)
  | guarded (tracker : Tracker)
  deriving Repr, Inhabited

/-- The name of a backend. -/
def Backend.name : Backend → String
  | .lockfree _ => "lockfree"
  | .guarded _ => "guarded"

/-- Something kept alive until the leak check has run: an object that is closed
then, and may fail to close, or a plain value. -/
inductive KeptAlive where
  | closer (name : String) (failing : Bool)
  | value (name : String)
  deriving Repr, Inhabited

/-- The allocator's whole state. -/
structure Allocator where
  settings : Settings := {}
  reporter : Reporter := {}
  space : Space := {}
  source : Source := .heap
  backend : Backend := .lockfree {}
  switched : Bool := false
  leakRan : Bool := false
  closed : Bool := false
  detector : Option (Array KeptAlive) := none
  metrics : Option Metrics := none
  journal : Journal := {}
  deriving Inhabited

/-- An operation on the allocator. -/
abbrev AllocM := ExceptT Fault (StateM Allocator)

/-- A block: its payload address, or none for the nil block, and its length. -/
structure Block where
  address : Option Nat
  length : Int
  deriving Repr, Inhabited

/-- The counters of an allocator, as unsigned machine words. -/
structure Usage where
  inUse : Nat
  blocks : Nat
  peak : Nat
  backend : String
  deriving Repr, Inhabited

/-- What a listing says about a live block. -/
structure BlockInfo where
  tag : String
  length : Nat
  address : Nat
  kind : BlockKind
  alignment : Nat
  deriving Repr, Inhabited

/-- An address in lowercase hexadecimal after `0x`. -/
def addressName (address : Nat) : String := "0x" ++ String.ofList (Nat.toDigits 16 address)

/-- A listing line: tag, length and address. -/
def BlockInfo.text (info : BlockInfo) : String :=
  info.tag ++ " len: " ++ toString info.length ++ " - " ++ addressName info.address

/-- A signed counter read as an unsigned machine word. -/
def unsignedWord (value : Int) : Nat := (value % Int.pow 2 64).toNat

namespace Allocator

/-- The counters. -/
def usage (allocator : Allocator) : Usage :=
  match allocator.backend with
  | .lockfree counters =>
    { inUse := unsignedWord counters.bytes, blocks := unsignedWord counters.blocks,
      peak := unsignedWord counters.peak, backend := "lockfree" }
  | .guarded tracker =>
    { inUse := tracker.bytes, blocks := tracker.blocks, peak := tracker.peak, backend := "guarded" }

/-- The live blocks in allocation order; only the tracking backend has a list. -/
def memlist (allocator : Allocator) : Option (List BlockInfo) :=
  match allocator.backend with
  | .lockfree _ => none
  | .guarded tracker =>
    some (tracker.list.entries.map fun entry =>
      { tag := entry.tag, length := entry.length, address := entry.payload, kind := entry.kind,
        alignment := entry.alignment })

/-- The listing as text, a line per live block. -/
def memlistText (allocator : Allocator) : String :=
  String.join ((allocator.memlist.getD []).map fun info => info.text ++ "\n")

/-- The chunk count and capacity of a chunk source. -/
def chunkGauges (allocator : Allocator) : Option (Nat × Nat) :=
  match allocator.source with
  | .chunk chunks => some (chunks.chunks.length, chunks.metrics.capacity)
  | _ => none

/-- The published metric samples. -/
def metricSamples (allocator : Allocator) : List String :=
  match allocator.metrics with
  | none => []
  | some metrics =>
    let usage := allocator.usage
    metrics.samples usage.inUse usage.blocks usage.peak allocator.chunkGauges

/-! ### Reports -/

/-- Records a report in the journal, written for the current sink. -/
def deliver (level : Level) (message : String) (fields : List (String × String)) : AllocM Unit :=
  modify fun allocator =>
    { allocator with
      journal := { allocator.journal with
        reports := allocator.journal.reports.push (allocator.reporter.render level message fields) } }

/-- Reports an error of a block, counts its reason, and aborts under the abort
policy. -/
def blockError (reason block message : String) : AllocM Unit := do
  let text := Reporter.blockMessage block message
  deliver .error text [("reason", reason), ("block", block)]
  modify fun allocator => { allocator with metrics := allocator.metrics.map (Metrics.observe reason) }
  if (← get).reporter.abortOnError then throw (.abort text)

/-- Reports an error that concerns no block. -/
def reportError (message : String) : AllocM Unit := deliver .error message []

/-- Reports a warning with fields. -/
def warn (message : String) (fields : List (String × String)) : AllocM Unit :=
  deliver .warn message fields

/-! ### Memory -/

/-- Bytes of the space, zeros where it holds none. -/
def readBytes (address length : Nat) : AllocM (List UInt8) :=
  return (← get).space.readOrZero address length

/-- Writes bytes into the space. -/
def writeBytes (address : Nat) (bytes : List UInt8) : AllocM Unit :=
  modify fun allocator => { allocator with space := allocator.space.write address bytes }

/-- The header in front of a payload. -/
def loadHeader (payload : Nat) : AllocM Header :=
  return Header.decode (← readBytes (payload - headerSize) headerSize)

/-- Writes the header in front of a payload. -/
def storeHeader (payload : Nat) (header : Header) : AllocM Unit :=
  writeBytes (payload - headerSize) header.encode

/-- The tag word of the tail at an offset from the payload. -/
def loadTail (payload offset : Nat) : AllocM UInt32 :=
  return read32 (← readBytes (payload + offset) 4)

/-- Writes the tag word of the tail at an offset from the payload. -/
def storeTail (payload offset : Nat) (tag : UInt32) : AllocM Unit :=
  writeBytes (payload + offset) (bytesLE 4 tag.toNat)

/-- Flips the front tag of the header in front of a payload from live to freed as one step, and
says whether it did; a front tag that is not live is left as it is. The tag word is compared and
written as its four little-endian bytes, so the step means the same on every byte order. -/
def claimFront (payload : Nat) : AllocM Bool := do
  if read32 (← readBytes (payload - headerSize) 4) == liveFrontTag then
    writeBytes (payload - headerSize) (bytesLE 4 freedTag.toNat)
    return true
  else return false

/-- Stops with a bound fault when a buffer of `size` bytes cannot be made. -/
def checkStorage (size : Nat) : AllocM Unit :=
  match Bounds.storage size 1 with
  | .ok () => pure ()
  | .error error => throw (.bounds error)

/-- A fresh area of the space. -/
def reserveArea (size : Nat) : AllocM Nat := do
  let allocator ← get
  let (base, space) := allocator.space.reserve size
  set { allocator with space }
  return base

/-- Bytes from the source: the address of `total` bytes, or an error of the
source. -/
def sourceAlloc (total : Nat) : AllocM (Except MemError Nat) := do
  match (← get).source with
  | .heap =>
    checkStorage total
    return .ok (← reserveArea total)
  | .chunk chunks =>
    if chunks.chunkSize < total then checkStorage total
    let allocator ← get
    let (address, chunks, space) := chunks.alloc total allocator.space
    set { allocator with source := .chunk chunks, space }
    return .ok (address.getD 0)
  | .mmap =>
    if mappingLimit < total then
      return .error (MemError.withContext .outOfMemory
        ("mmap " ++ toString total ++ " bytes: cannot allocate memory"))
    return .ok (← reserveArea total)

/-- Gives the bytes of a byte block back to its source. -/
def sourceRelease (base total : Nat) : AllocM Unit := do
  let allocator ← get
  match allocator.source with
  | .heap => pure ()
  | .chunk chunks =>
    let (chunks, space) := chunks.release base total allocator.space
    set { allocator with source := .chunk chunks, space }
  | .mmap => set { allocator with space := allocator.space.unmap base }

end Allocator

/-! ### Regions -/

/-- Memory for one block: where its region starts and how large it is, where the
payload sits, and for a typed frame where the tail sits behind the payload. -/
structure Region where
  base : Nat
  total : Nat
  payload : Nat
  frame : Bool
  tail : Nat
  deriving Repr, Inhabited

namespace Region

/-- The payload's offset from the region's start. -/
def offset (region : Region) : Nat := region.payload - region.base

/-- Spare bytes: for a frame, between the payload and the tail; for a byte block,
behind the tail. -/
def slack (region : Region) (length : Nat) : Nat :=
  if region.frame then region.tail - length
  else region.total - region.offset - length - tailSize

end Region

/-- What a block is being made for. -/
structure Request where
  size : Nat
  length : Nat
  alignment : Nat
  tag : String
  kind : BlockKind
  zeroed : Bool
  deriving Repr, Inhabited

/-- The element type of a typed block: its name, size and alignment, and whether
its values have a finalizer. -/
structure ElementType where
  name : String
  size : Nat
  alignment : Nat
  finalized : Bool := false
  deriving Repr, Inhabited

/-- The multiple a count above eight is rounded up to: two to the bit length of
`count - 1` less three, an eighth of the power of two at or above the count. -/
def frameStep (count : Nat) : Nat := Nat.pow 2 (Nat.log2 (count - 1) + 1 - 3)

/-- The element count a frame holds for a request of `count`: the count itself up
to eight, above that rounded up to a multiple of `frameStep count`. -/
def frameCount (count : Nat) : Nat :=
  if count ≤ 8 then count
  else
    let step := frameStep count
    (count + step - 1) / step * step

namespace Allocator

/-- Refuses a length above a non-zero block size limit. -/
def checkLimit (length : Nat) : AllocM (Except MemError Unit) := do
  let limit := (← get).settings.maxBlockSize
  if 0 < limit && limit < length then
    return .error (MemError.withContext .outOfMemory
      (toString length ++ " bytes exceed the block size limit of " ++ toString limit))
  return .ok ()

/-- A region for a byte block of a rounded length and an alignment. -/
def rawRegion (length alignment : Nat) : AllocM (Except MemError Region) := do
  if let .error error ← checkLimit length then return .error error
  let pad := alignment - minimumAlignment
  if maxInt < length + headerSize + tailSize + pad then
    return .error (MemError.withContext .sizeOverflow ("length " ++ toString length))
  let total := headerSize + pad + length + tailSize
  match ← sourceAlloc total with
  | .error error => return .error error
  | .ok base =>
    return .ok { base, total, payload := alignUp (base + headerSize) alignment, frame := false,
                 tail := 0 }

/-- A frame for `count` elements, and the rounded length of the elements. -/
def frameRegion (element : ElementType) (count : Int) : AllocM (Except MemError (Region × Nat)) := do
  if count < 0 then
    return .error (MemError.withContext .sizeOverflow ("negative count " ++ toString count))
  let count := count.toNat
  if 0 < element.size && (maxInt / 4) / element.size < count then
    return .error (MemError.withContext .sizeOverflow
      (toString count ++ " elements of " ++ toString element.size ++ " bytes"))
  let length := roundLength (element.size * count)
  if let .error error ← checkLimit length then return .error error
  let places := frameCount count
  let places := if (Nat.pow 2 32 - 1 - 4) < (places - count) * element.size then count else places
  let tail := roundLength (element.size * places)
  let total := headerSize + tail + tailSize
  let base ← reserveArea total
  return .ok ({ base, total, payload := base + headerSize, frame := true, tail }, length)

/-- Writes the header and tail of a new block. -/
def stamp (region : Region) (request : Request) (slot : Nat) : AllocM Unit := do
  let header : Header :=
    { front := liveFrontTag, kind := request.kind.code,
      flags := if region.frame then Header.frameFlag else 0,
      alignment := request.alignment.toUInt16, length := request.length.toUInt64,
      slot := slot.toUInt32, offset := region.offset.toUInt32, back := liveBackTag,
      slack := (region.slack request.length).toUInt32 }
  storeHeader region.payload header
  storeTail region.payload header.tailOffset liveTailTag

/-- Enters a new block into the backend's bookkeeping and stamps it. -/
def enroll (region : Region) (request : Request) : AllocM Unit := do
  match (← get).backend with
  | .lockfree counters =>
    stamp region request 0
    let bytes := counters.bytes + request.length
    modify fun allocator =>
      { allocator with
        backend := .lockfree { blocks := counters.blocks + 1, bytes, peak := max counters.peak bytes } }
  | .guarded tracker =>
    let entry : Entry :=
      { payload := region.payload, tag := request.tag, length := request.length, kind := request.kind,
        alignment := request.alignment }
    let (slot, list) := tracker.list.insert entry
    stamp region request (slot + 1)
    let bytes := tracker.bytes + request.length
    modify fun allocator =>
      { allocator with
        backend := .guarded
          { list, history := tracker.history.map (FreedHistory.remove region.payload),
            blocks := tracker.blocks + 1, bytes, peak := max tracker.peak bytes } }

/-! ### Byte blocks -/

/-- Checks a request for a byte block: the length must not be negative and the
alignment must be valid; small alignments are raised to a word. -/
def rawRequest (size alignment : Int) (tag : String) (kind : BlockKind) (zeroed : Bool) :
    AllocM (Except MemError Request) := do
  if size < 0 then
    blockError "size_overflow" tag ("negative length " ++ toString size)
    return .error (MemError.withContext .sizeOverflow ("negative length " ++ toString size))
  if !validAlignment alignment then
    blockError "invalid_alignment" tag ("illegal alignment " ++ toString alignment)
    return .error (MemError.withContext .invalidAlignment ("alignment " ++ toString alignment))
  return .ok { size := size.toNat, length := roundLength size.toNat,
               alignment := max alignment.toNat minimumAlignment, tag, kind, zeroed }

/-- A byte block of `size` bytes at an alignment. A block that is not asked to be
zeroed is filled with `0xFF` under the memset setting. -/
def allocateRaw (size alignment : Int) (tag : String) (kind : BlockKind) (zeroed : Bool) :
    AllocM (Except MemError Block) := do
  match ← rawRequest size alignment tag kind zeroed with
  | .error error => return .error error
  | .ok request =>
    let inUse := (← get).usage.inUse
    match ← rawRegion request.length request.alignment with
    | .error error =>
      blockError "out_of_memory" tag ("unable to allocate " ++ toString size ++ " bytes, total " ++
        toString inUse ++ " in use: " ++ error.message)
      return .error error
    | .ok region =>
      if !zeroed && (← get).settings.debugMemset then
        modify fun allocator =>
          { allocator with space := allocator.space.fill region.payload request.length 0xFF }
      enroll region request
      return .ok { address := some region.payload, length := size }

/-- `malloc`: a byte block at word alignment. -/
def malloc (size : Int) (tag : String) : AllocM (Except MemError Block) :=
  allocateRaw size minimumAlignment tag .raw false

/-- A byte block at a chosen alignment. -/
def mallocAligned (size alignment : Int) (tag : String) : AllocM (Except MemError Block) :=
  allocateRaw size alignment tag .raw false

/-- `calloc`: a zeroed byte block. -/
def calloc (size : Int) (tag : String) : AllocM (Except MemError Block) :=
  allocateRaw size minimumAlignment tag .raw true

/-- The byte size of `count` elements of `size` bytes, when both are not negative
and the product fits a machine integer; otherwise an overflow is reported. -/
def arraySize (count size : Int) (tag : String) : AllocM (Except MemError Int) := do
  if 0 ≤ count && 0 ≤ size && count * size ≤ maxInt then return .ok (count * size)
  blockError "size_overflow" tag ("array allocation aborted due to integer overflow: " ++
    toString count ++ " x " ++ toString size)
  return .error (MemError.withContext .sizeOverflow (toString count ++ " x " ++ toString size))

/-- A byte block for `count` elements of `size` bytes. -/
def mallocArray (count size : Int) (tag : String) : AllocM (Except MemError Block) := do
  match ← arraySize count size tag with
  | .error error => return .error error
  | .ok total => malloc total tag

/-- A zeroed byte block for `count` elements of `size` bytes. -/
def callocArray (count size : Int) (tag : String) : AllocM (Except MemError Block) := do
  match ← arraySize count size tag with
  | .error error => return .error error
  | .ok total => calloc total tag

/-! ### Typed frames -/

/-- A zeroed frame for `count` elements of a type. -/
def allocateFrame (element : ElementType) (count : Int) (tag : String) :
    AllocM (Except MemError Block) := do
  let inUse := (← get).usage.inUse
  match ← frameRegion element count with
  | .error error =>
    blockError "out_of_memory" tag ("unable to allocate " ++ toString count ++ " x " ++ element.name ++
      ", total " ++ toString inUse ++ " in use: " ++ error.message)
    return .error error
  | .ok (region, length) =>
    let size := element.size * count.toNat
    enroll region
      { size, length, alignment := max element.alignment minimumAlignment, tag, kind := .typed,
        zeroed := true }
    return .ok { address := some region.payload, length := size }

end Allocator

end HeapKit.Memory
