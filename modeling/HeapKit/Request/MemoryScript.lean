import HeapKit.Request.MemorySession

/-!
# Memory scripts

A memory script makes an allocator from a configuration and drives it step by
step. The configuration's fields are read first, then the script, and only then
is the allocator made, which checks the configuration. The steps are allocations
through the byte and the typed API, frees of every kind, reads and writes of a
block's bytes and header, the leak detector, and the listings and counters.

Every step answers with its own fields, or its failure, and also with the
reports made during the step, the counters after it, and, when there were any,
the identifiers whose finalizer ran and the kept-alive objects that were
closed. Every allocation makes a handle, numbered in creation order.

A script may not make blocks above 16 MiB unless the allocator refuses them
before it allocates, may not touch a block outside its header-to-tail range or
the bytes of a block without a payload, may not write the header's length,
offset or slack, may not take a block to hold a type larger than the block, and
under the mapping source may not touch a block whose memory was given back.
-/

namespace HeapKit.Request

open HeapKit.Memory

/-- The largest block a script may actually allocate. -/
def blockSizeLimit : Nat := 16 * 1024 * 1024

/-- A failure of the allocator as a step failure. -/
def faultFailure (session : Session) (fault : Fault) : Failure :=
  match ofFault fault with
  | .runtime message => .runtime (session.scrub message)
  | .abort message => .abort (session.scrub message)
  | other => other

/-- Refuses a byte block above 16 MiB that the allocator would go on to allocate. -/
def checkBlockSize (session : Session) (size : Int) : Outcome Unit :=
  let limit := session.allocator.settings.maxBlockSize
  if (blockSizeLimit : Int) < size && size ≤ (maxInt : Int) - 1024 &&
      !(0 < limit && limit < roundLength size.toNat) then
    refuse "size above driver limit"
  else .ok ()

/-- Refuses an array above 16 MiB that the allocator would go on to allocate. -/
def checkArraySize (session : Session) (element : ElementType) (count : Int) : Outcome Unit :=
  let limit := session.allocator.settings.maxBlockSize
  let size := count * element.size
  if (blockSizeLimit : Int) < size && !(0 < element.size && ((maxInt / 4) / element.size : Int) < count) &&
      !(0 < limit && limit < roundLength size.toNat) then
    refuse "size above driver limit"
  else .ok ()

/-- What a step did: its session afterwards, and its fields or failure. -/
abbrev StepResult := Session × Outcome (List (String × Json))

/-- Runs an allocator operation and answers with fields made from its result. -/
def runStep {α : Type} (session : Session) (operation : AllocM α)
    (answer : Session → α → Session × List (String × Json)) : StepResult :=
  let (outcome, session) := session.run operation
  match outcome with
  | .ok value =>
    let (session, fields) := answer session value
    (session, .ok fields)
  | .error fault => (session, .error (faultFailure session fault))

/-- Answers with a returned error. -/
def errorAnswer (session : Session) (error : Option MemError) : Session × List (String × Json) :=
  (session, [("err", session.errorJson error)])

/-- Whether a free gave the memory back: it succeeded, or only the kind did not
match. -/
def gaveBack (error : Option MemError) : Bool :=
  match error with
  | none => true
  | some error => error.is .kindMismatch

/-- Answers a free of a handle's block; under the mapping source a block whose
memory went back can no longer be touched. -/
def freeAnswer (id : Nat) (session : Session) (error : Option MemError) : Session × List (String × Json) :=
  let session := if session.mapsBlocks && gaveBack error then session.unmapHandle id else session
  errorAnswer session error

/-- Records a new block as a handle and answers with its description. -/
def allocationAnswer (element : Option (String × ElementType)) (count : Nat) (alignment : Nat)
    (session : Session) (outcome : Except MemError Block) : Session × List (String × Json) :=
  match outcome with
  | .error error => errorAnswer session (some error)
  | .ok block =>
    let id := session.handles.size
    match block.address with
    | none =>
      let handle : Handle := { address := none, length := 0, element, count := 0, high := 0, alignment }
      ({ session with handles := session.handles.push handle },
       [("id", .nat id), ("len", .nat 0), ("nil", .bool true)])
    | some address =>
      let header := Header.decode (session.allocator.space.readOrZero (address - headerSize) headerSize)
      let high : Int :=
        if element.isSome then header.length.toNat + header.slack.toNat + tailSize
        else roundLength block.length.toNat + tailSize
      let earlier := if session.mapsBlocks then none else session.firstAt? address
      let handle : Handle := { address := some address, length := block.length, element, count, high, alignment }
      let session := { session with handles := session.handles.push handle }
      (session,
       [("id", .nat id), ("len", .int block.length), ("aligned", .bool (address % alignment == 0)),
        ("header", headerJson session handle)] ++
       match earlier with
       | some first => [("same_as", .nat first)]
       | none => [])

/-- The element type a step uses for a handle: the one it names with `as`, else
the handle's own, else bytes. -/
def stepElement (step : Json) (handle : Handle) : Outcome (String × ElementType) := do
  match fieldOf step "as" with
  | some _ => typeField step "as"
  | none =>
    match handle.element with
    | some element => pure element
    | none => typeField (.object [("type", .string "u8")]) "type"

/-- The element count of a handle seen as an array of an element type. -/
def arrayCapacity (handle : Handle) (typeName : String) (element : ElementType) : Nat :=
  match handle.element with
  | some (ownName, _) =>
    if ownName == typeName then handle.count
    else if element.size == 0 then 0 else handle.length.toNat / element.size
  | none => if element.size == 0 then 0 else roundLength handle.length.toNat / element.size

/-- Refuses a range of bytes outside a handle's header-to-tail range. -/
def checkRange (handle : Handle) (offset length : Int) : Outcome Unit :=
  if -(headerSize : Int) ≤ offset && 0 ≤ length && offset + length ≤ handle.high then .ok ()
  else refuse ("range [" ++ toString offset ++ ", " ++ toString (offset + length) ++ ") outside [-32, " ++
    toString handle.high ++ ")")

/-- Whether a header byte may be written. -/
def writableHeaderByte (position : Nat) : Bool :=
  !((8 ≤ position && position < 16) || (20 ≤ position && position < 24) || 28 ≤ position)

/-- Refuses a write that touches a header byte that may not be written. -/
def checkWritable (offset length : Int) : Outcome Unit :=
  let touched := (List.range length.toNat).filterMap fun index : Nat =>
    let position := offset + (index : Int)
    if position < 0 then some (position + headerSize).toNat else none
  match touched.find? fun position => !writableHeaderByte position with
  | some position => refuse ("header byte " ++ toString position ++ " is not writable")
  | none => .ok ()

/-- The bytes of a range as hexadecimal; for a byte block aligned above a word,
the header's offset and slack depend on the address and show as `xx`. -/
def rangeHex (session : Session) (handle : Handle) (offset length : Int) : String :=
  let payload := handle.address.getD 0
  let bytes := session.allocator.space.readOrZero ((payload : Int) + offset).toNat length.toNat
  let masked := handle.element.isNone && minimumAlignment < handle.alignment
  String.join ((List.range bytes.length).zip bytes |>.map fun (index, byte) =>
    let position := offset + index + headerSize
    if masked && ((20 ≤ position && position < 24) || (28 ≤ position && position < 32)) then "xx"
    else Hex.encode [byte])

/-- The chunk source's counters as answer fields. -/
def chunkMetricsFields (metrics : ChunkMetrics) : List (String × Json) :=
  let utilization : Json :=
    if metrics.capacity == 0 then .nat 0
    else .number (FloatText.numeral (Binary64.ofRatio metrics.sizeInUse metrics.capacity))
  [("size_in_use", .nat metrics.sizeInUse), ("capacity", .nat metrics.capacity),
    ("num_chunks", .nat metrics.chunkCount), ("live_regions", .int metrics.liveRegions),
    ("chunk_size", .nat metrics.chunkSize), ("utilization", utilization),
    ("num_chunks_fn", .nat metrics.chunkCount), ("capacity_fn", .nat metrics.capacity)]

/-- A listed block as an answer. -/
def blockInfoJson (session : Session) (info : BlockInfo) : Json :=
  .object [("tag", .string info.tag), ("len", .nat info.length), ("kind", .string info.kind.name),
    ("alignment", .nat info.alignment), ("addr", .string (session.scrub (addressName info.address))),
    ("text", .string (session.scrub info.text))]

/-- Allocation steps. Each reads what sizes or types the block, then its tag;
the steps that allocate raw blocks by size read the alignment, which only
`malloc_aligned` uses, before the tag, and a constructed value is read last. -/
def allocationStep (session : Session) (name : String) (step : Json) : Outcome StepResult := do
  let tag := fun (_ : Unit) => textField step "tag" "t"
  let alignment := fun (_ : Unit) => intField step "alignment" 8
  match name with
  | "malloc" | "calloc" =>
    let size ← requiredInt step "n"
    checkBlockSize session size.toInt
    let _ ← alignment ()
    let tag ← tag ()
    let operation := if name == "malloc" then Allocator.malloc size.toInt tag else Allocator.calloc size.toInt tag
    pure (runStep session operation (allocationAnswer none 0 minimumAlignment))
  | "malloc_aligned" =>
    let size ← requiredInt step "n"
    checkBlockSize session size.toInt
    let alignment ← alignment ()
    let tag ← tag ()
    pure (runStep session (Allocator.mallocAligned size.toInt alignment.toInt tag)
      (allocationAnswer none 0 (max alignment.toInt.toNat minimumAlignment)))
  | "malloc_array" | "calloc_array" =>
    let count ← requiredInt step "count"
    let size ← requiredInt step "size"
    let total := count.toInt * size.toInt
    if 0 ≤ count.toInt && 0 ≤ size.toInt && total ≤ maxInt then checkBlockSize session total
    let tag ← tag ()
    let operation :=
      if name == "malloc_array" then Allocator.mallocArray count.toInt size.toInt tag
      else Allocator.callocArray count.toInt size.toInt tag
    pure (runStep session operation (allocationAnswer none 0 minimumAlignment))
  | "construct" =>
    let (typeName, element) ← typeField step "type"
    let tag ← tag ()
    let value ← encodeValue typeName ((fieldOf step "value").getD .null)
    pure (runStep session (Allocator.construct element value tag)
      (allocationAnswer (some (typeName, element)) 1 (max element.alignment minimumAlignment)))
  | _ =>
    let (typeName, element) ← typeField step "type"
    let count ← requiredInt step "n"
    checkArraySize session element count.toInt
    let tag ← tag ()
    pure (runStep session (Allocator.newArray element count.toInt tag)
      (allocationAnswer (some (typeName, element)) count.toInt.toNat (max element.alignment minimumAlignment)))

/-- Steps that free a handle's block. -/
def freeStep (session : Session) (name : String) (step : Json) : Outcome StepResult := do
  let (id, handle) ← session.mappedHandle step
  match name with
  | "free" =>
    pure (runStep session (Allocator.freeRaw { address := handle.address, length := handle.length })
      (freeAnswer id))
  | "destroy" =>
    let (typeName, element) ← stepElement step handle
    if handle.address.isSome && handle.usableLength < element.size then
      refuse ("type " ++ typeName ++ " does not fit in handle " ++ toString id)
    pure (runStep session (Allocator.destroy element handle.address) (freeAnswer id))
  | _ =>
    let (typeName, element) ← stepElement step handle
    let capacity := arrayCapacity handle typeName element
    let length ← intField step "len" (Int64.ofNat capacity)
    if handle.address.isSome && min length.toInt capacity < 0 then
      .error (.runtime ("runtime error: slice bounds out of range [:" ++ toString length.toInt ++ "]"))
    let operation :=
      if name == "free_array" then Allocator.freeArray element handle.address capacity
      else Allocator.destroyArray element handle.address capacity
    pure (runStep session operation (freeAnswer id))

/-- Steps that read or write a handle's bytes. The handle must exist; the
step's own fields are read before the handle is checked to be mapped and to
have a payload. -/
def accessStep (session : Session) (name : String) (step : Json) : Outcome StepResult := do
  let id ← requiredInt step "id"
  let handle ← session.handle id.toInt
  let usable := fun (_ : Unit) => do
    if handle.unmapped then refuse ("handle " ++ toString id.toInt ++ " is unmapped")
    if name != "live" && handle.address.isNone then
      refuse ("handle " ++ toString id.toInt ++ " has no payload")
  match name with
  | "read" =>
    let offset ← intField step "off" 0
    let length ← intField step "len" (Int64.ofInt handle.length)
    usable ()
    checkRange handle offset.toInt length.toInt
    pure (session, .ok [("hex", .string (rangeHex session handle offset.toInt length.toInt))])
  | "write" =>
    let offset ← intField step "off" 0
    let data ← readBytes "data" ((fieldOf step "data").getD .null)
    usable ()
    checkRange handle offset.toInt data.length
    checkWritable offset.toInt data.length
    let address := ((handle.address.getD 0 : Int) + offset.toInt).toNat
    let allocator := session.allocator
    pure ({ session with allocator := { allocator with space := allocator.space.write address data } },
      .ok [])
  | "header" =>
    usable ()
    pure (session, .ok [("header", headerJson session handle)])
  | _ =>
    usable ()
    pure (runStep session (Allocator.isLive handle.address) fun session live => (session, [("live", .bool live)]))

/-- The bytes of a forged foreign block after its header. -/
def foreignPayloadSize : Nat := 64

/-- A forged foreign block: a zeroed buffer of a header and 64 bytes, never
handed out, freed by its payload with the length the step names, whatever that
is. The header is read and checked before the length: it must have 32 bytes
and may not carry both live tags. -/
def foreignStep (session : Session) (step : Json) : Outcome StepResult := do
  let header ← match fieldOf step "header" with
    | some document => readBytes "header" document
    | none => pure (List.replicate headerSize 0)
  if header.length != headerSize then refuse "header must be 32 bytes"
  if (Header.decode header).isLive then refuse "forged header must not carry both live tags"
  let length ← intField step "len" 8
  let allocator := session.allocator
  let (base, space) := allocator.space.reserve (headerSize + foreignPayloadSize)
  let space := space.write base header
  let payload := base + headerSize
  let id := session.handles.size
  let handle : Handle :=
    { address := some payload, length := length.toInt, element := none, count := 0,
      high := foreignPayloadSize, alignment := minimumAlignment }
  let session := { session with allocator := { allocator with space }, handles := session.handles.push handle }
  pure (runStep session (Allocator.freeRaw { address := some payload, length := length.toInt })
    fun session error => (session, [("id", .nat id), ("err", session.errorJson error)]))

/-- Steps on the leak detector. -/
def leakStep (session : Session) (name : String) (step : Json) : Outcome StepResult := do
  let present := session.allocator.detector.isSome
  match name with
  | "init_leak" =>
    pure (runStep session Allocator.initLeakDetection fun session _ =>
      (session, [("has_run", .bool session.allocator.leakRan)]))
  | "has_leak_detector" => pure (session, .ok [("present", .bool present)])
  | "keep_alive" =>
    if !present then refuse "no leak detector"
    let itemName ← textField step "name" "k"
    let closer ← boolField step "closer" true
    let failing ← boolField step "fail" false
    let item := if closer then KeptAlive.closer itemName failing else .value itemName
    pure (runStep session (Allocator.keepAlive item) fun session _ => (session, []))
  | _ =>
    if !present then refuse "no leak detector"
    pure (runStep session Allocator.runLeakCheck fun session error =>
      (session, [("err", session.errorJson error), ("has_run", .bool session.allocator.leakRan)]))

/-- Runs one step of a memory script. -/
def memoryStep (session : Session) (step : Json) : Outcome StepResult := do
  let name ← stepName step
  match name with
  | "malloc" | "calloc" | "malloc_aligned" | "malloc_array" | "calloc_array" | "construct"
  | "new_array" => allocationStep session name step
  | "free" | "destroy" | "free_array" | "destroy_array" => freeStep session name step
  | "read" | "write" | "header" | "live" => accessStep session name step
  | "free_nil" =>
    pure (runStep session (Allocator.freeRaw { address := none, length := 0 }) errorAnswer)
  | "destroy_nil" =>
    let element := (memoryType? "int64").getD default
    pure (runStep session (Allocator.destroy element none) errorAnswer)
  | "free_misaligned" =>
    let id ← requiredInt step "id"
    let handle ← session.handle id.toInt
    let delta ← intField step "delta" 1
    if handle.address.isNone || delta.toInt < 1 || 63 < delta.toInt || delta.toInt % 8 == 0 then
      refuse "delta must be 1..63 and not a multiple of 8"
    let address := handle.address.map (· + delta.toInt.toNat)
    pure (runStep session (Allocator.freeRaw { address, length := handle.length }) errorAnswer)
  | "free_foreign" => foreignStep session step
  | "set_callback" =>
    let on ← boolField step "on" true
    let allocator := session.allocator
    pure ({ session with allocator := { allocator with
      reporter := { allocator.reporter with sink := if on then .callback else .logger } } }, .ok [])
  | "use_guarded" => pure (runStep session Allocator.useGuarded errorAnswer)
  | "backend" => pure (session, .ok [("backend", .string session.allocator.backend.name)])
  | "usage" =>
    let usage := session.allocator.usage
    pure (session, .ok [("memory_in_use", .nat usage.inUse), ("blocks_in_use", .nat usage.blocks)])
  | "memlist" =>
    let listing : Json := match session.allocator.memlist with
      | none => .null
      | some infos => .array (infos.map (blockInfoJson session))
    pure (session, .ok [("memlist", listing)])
  | "print_memlist" => pure (session, .ok [("text", .string (session.scrub session.allocator.memlistText))])
  | "init_leak" | "has_leak_detector" | "keep_alive" | "run_leak" => leakStep session name step
  | "close" => pure (runStep session Allocator.close errorAnswer)
  | "chunk_metrics" =>
    match session.allocator.source with
    | .chunk chunks => if session.givenChunks then pure (session, .ok (chunkMetricsFields chunks.metrics))
                       else refuse "no chunk source"
    | _ => refuse "no chunk source"
  | "metrics" =>
    if session.allocator.metrics.isNone then refuse "metrics not enabled"
    pure (session, .ok [("metrics", .array (session.allocator.metricSamples.map Json.string))])
  | other => refuse ("unknown mem step " ++ Quoted.quote other)

/-- Answers one step with the reports, counters, finalized identifiers and
closed objects that belong to it. -/
def memoryAnswer (session : Session) (step : Json) : Session × Json :=
  let before := session.allocator.journal
  let (session, outcome) := match memoryStep session step with
    | .ok result => result
    | .error failure => (session, .error failure)
  let journal := session.allocator.journal
  let reports := (journal.reports.toList.drop before.reports.size).map fun text =>
    Json.string (session.scrub text)
  let finalized := (journal.finalized.toList.drop before.finalized.size).map Json.int
  let closed := (journal.closed.toList.drop before.closed.size).map Json.string
  let usage := session.allocator.usage
  let fields := match outcome with
    | .ok fields => fields
    | .error failure => failure.fields
  let extra : List (String × Json) :=
    [("reports", .array reports),
     ("usage", .object [("in_use", .nat usage.inUse), ("blocks", .nat usage.blocks),
       ("peak", .nat usage.peak), ("backend", .string usage.backend)])] ++
    (if finalized.isEmpty then [] else [("destroyed", .array finalized)]) ++
    (if closed.isEmpty then [] else [("closed", .array closed)])
  (session, .object (fields ++ extra))

/-- The answer to an allocator that cannot be made. -/
def createErrorJson (error : MemError) : Json :=
  .object [("error", .string error.kindName), ("message", .string error.message), ("reports", .array [])]

/-- Answers a memory request: reads the configuration and the script, makes the
chunk source to hand over if there is one, makes the allocator, then runs the
script. -/
def memoryRequest (request : Json) : Outcome Json := do
  let setup ← readSetup ((fieldOf request "config").getD (.object []))
  let config := setup.config
  let steps ← scriptSteps request
  let (given, space) : Option ChunkSource × Space :=
    if setup.givenChunks then
      let (chunks, space) := ChunkSource.create config.signedChunkSize Space.empty
      (some chunks, space)
    else (none, Space.empty)
  match Allocator.create config setup.sink given space setup.metrics with
  | .error error => pure (createErrorJson error)
  | .ok allocator =>
    let session : Session := { allocator, givenChunks := given.isSome }
    let (_, answers) := runScript memoryAnswer session steps
    pure (.object [("steps", .array answers)])

end HeapKit.Request
