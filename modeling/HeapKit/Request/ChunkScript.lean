import HeapKit.Request.MemoryScript

/-!
# Chunk source scripts

A chunk source on its own, driven by a script: regions are carved, filled with
a byte and released, also from an offset into a region and also when they were
never carved. Every region carved gets a number, a nil region too, and every
answer carries the source's counters. A step on a region finds the region
before it reads its other fields. Chunks and regions above 16 MiB are refused,
as is a release from outside its region.
-/

namespace HeapKit.Request

open HeapKit.Memory

/-- The largest chunk and the largest region a script may ask for: 16 MiB. -/
def regionSizeLimit : Nat := 16 * 1024 * 1024

/-- A chunk source script's state: the source, its space, and every region as its
address and length, or none when it was nil. -/
structure ChunkSession where
  source : ChunkSource
  space : Space
  regions : Array (Option (Nat × Nat)) := #[]

namespace ChunkSession

/-- The region with a number. -/
def region (session : ChunkSession) (id : Int) : Outcome (Option (Nat × Nat)) :=
  if 0 ≤ id then
    match session.regions[id.toNat]? with
    | some region => pure region
    | none => refuse ("unknown region " ++ toString id)
  else refuse ("unknown region " ++ toString id)

/-- The number of the first region at an address. -/
def firstAt? (session : ChunkSession) (address : Nat) : Option Nat :=
  (List.range session.regions.size).find? fun index =>
    match session.regions[index]? with
    | some (some (other, _)) => other == address
    | _ => false

end ChunkSession

/-- Runs one step of a chunk source script. -/
def chunkStep (session : ChunkSession) (step : Json) : Outcome (ChunkSession × List (String × Json)) := do
  let name ← stepName step
  match name with
  | "alloc" =>
    let length ← requiredInt step "n"
    if (regionSizeLimit : Int) < length.toInt then refuse "size above driver limit"
    if session.source.chunkSize < length.toInt then ofBounds (Bounds.storage length.toInt 1)
    let id := session.regions.size
    let (address, source, space) := session.source.alloc length.toInt session.space
    match address with
    | none =>
      pure ({ session with source, space, regions := session.regions.push none },
        [("id", .nat id), ("len", .nat 0), ("cap", .nat 0), ("err", .null), ("nil", .bool true)])
    | some address =>
      let size := length.toInt.toNat
      let earlier := session.firstAt? address
      let zeroed := (space.readOrZero address size).all (· == 0)
      pure ({ session with source, space, regions := session.regions.push (some (address, size)) },
        [("id", .nat id), ("len", .nat size), ("cap", .nat size), ("err", .null),
         ("aligned", .bool (address % minimumAlignment == 0)), ("zeroed", .bool zeroed)] ++
        match earlier with
        | some first => [("same_as", .nat first)]
        | none => [])
  | "fill" =>
    let id ← requiredInt step "id"
    let region ← session.region id.toInt
    let value ← intField step "value" 171
    match region with
    | none => pure (session, [])
    | some (address, size) =>
      pure ({ session with space := session.space.fill address size (value.toInt % 256).toNat.toUInt8 }, [])
  | "release" =>
    let id ← requiredInt step "id"
    let region ← session.region id.toInt
    let start ← intField step "from" 0
    let (address, size) := region.getD (0, 0)
    if start.toInt < 0 || size < start.toInt then refuse "from out of range"
    let (source, space) := session.source.release (address + start.toInt.toNat) (size - start.toInt.toNat)
      session.space
    pure ({ session with source, space }, [("err", .null)])
  | "release_foreign" =>
    let size ← intField step "n" 16
    if size.toInt < 0 || regionSizeLimit < size.toInt then refuse "bad n"
    let (address, space) := session.space.reserveBytes size.toInt.toNat
    let (source, space) := session.source.release address size.toInt.toNat space
    pure ({ session with source, space }, [("err", .null)])
  | "metrics" => pure (session, [])
  | other => refuse ("unknown chunk step " ++ Quoted.quote other)

/-- Answers one step with the source's counters. -/
def chunkAnswer (session : ChunkSession) (step : Json) : ChunkSession × Json :=
  let (session, fields) := match chunkStep session step with
    | .ok (session, fields) => (session, fields)
    | .error failure => (session, failure.fields)
  (session, .object (fields ++ [("metrics", .object (chunkMetricsFields session.source.metrics))]))

/-- Answers a chunk source request. -/
def chunkSourceRequest (request : Json) : Outcome Json := do
  let chunkSize ← intField request "chunk_size" 0
  if (regionSizeLimit : Int) < chunkSize.toInt then refuse "chunk_size above driver limit"
  let (source, space) := ChunkSource.create chunkSize.toInt Space.empty
  let steps ← scriptSteps request
  let (_, answers) := runScript chunkAnswer { source, space } steps
  pure (.object [("steps", .array answers)])

end HeapKit.Request
