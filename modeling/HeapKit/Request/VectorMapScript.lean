import HeapKit.Request.HashMapScript
import HeapKit.Container.VectorMap

/-!
# Vector map scripts

A vector map from 64-bit integer or string keys to string values, driven by a
script. The index takes its slots and the values take their storage from the
same allocator, when the request has one; probing and load factor are chosen
as for hash maps.

Every answer shows the number of entries, whether there are none, and the
values in insertion order; queries add a `result`. A listing reads its `limit`
only when the map has entries.
-/

namespace HeapKit.Request

open HeapKit.Memory

/-- The vector maps of scripts: keys of one kind to strings. -/
abbrev KeyedVectorMap := VectorMap Key (List UInt8)

/-- The fields that show a vector map. -/
def vectorMapFields (map : KeyedVectorMap) : Outcome (List (String × Json)) := do
  let values ← ofBounds map.values.items
  pure [("len", .int map.length), ("empty", .bool (map.length == 0)),
    ("values", .array (values.map bytesJson))]

/-- The two providers of a vector map: for index slots and for values. -/
structure VectorMapProviders where
  slots : Provider Allocator
  values : Provider Allocator

/-- The action of one step of a vector map script. -/
def vectorMapAction (kind : KeyKind) (providers : VectorMapProviders) (step : Json) :
    Outcome (Mutation Allocator KeyedVectorMap (Option Json)) := do
  let key := fun (_ : Unit) => readKey kind ((fieldOf step "key").getD .null)
  let value := fun (_ : Unit) => readBytes "value" ((fieldOf step "value").getD .null)
  let query := fun (answer : KeyedVectorMap → Except BoundsError Json) =>
    (do pure (some (← Mutation.check (answer (← Mutation.container)))) :
      Mutation Allocator KeyedVectorMap (Option Json))
  match ← stepName step with
  | "add" =>
    let key ← key ()
    let value ← value ()
    pure (do pure (some (.bool (← VectorMap.insert providers.slots providers.values key value))))
  | "add_range" =>
    let count ← limitedField step "count" countLimit
    let start ← numberField step "start"
    let words := (List.range count.toInt.toNat).map fun index => start + Int64.ofNat index
    pure (do
      let added ← words.foldlM (fun added word => do
        let key ← keyOrStop kind word
        if ← VectorMap.insert providers.slots providers.values key (decimalBytes word.toInt) then
          pure (added + 1)
        else pure added) 0
      pure (some (.nat added)))
  | "lookup" =>
    let key ← key ()
    pure (query fun map => (map.get? key).map fun
      | some stored => .object [("found", .bool true), ("value", bytesJson stored)]
      | none => .object [("found", .bool false), ("value", .string "")])
  | "lookup_ptr_set" =>
    let key ← key ()
    let value := value ()
    pure (do
      match ← Mutation.check ((← Mutation.container).get? key) with
      | none => pure (some (.object [("found", .bool false)]))
      | some _ =>
        match value with
        | .error failure => throw (.refused failure.message)
        | .ok value =>
          let (map, old) ← Mutation.check ((← Mutation.container).replace key value)
          Mutation.setContainer map
          match old with
          | some old => pure (some (.object [("found", .bool true), ("old", bytesJson old)]))
          | none => pure (some (.object [("found", .bool false)])))
  | "contains" =>
    let key ← key ()
    pure (query fun map => .ok (.bool (map.index.contains key)))
  | "at" =>
    let position ← requiredInt step "i"
    pure (query fun map => (map.values.get position.toInt).map bytesJson)
  | "reserve" =>
    let count ← limitedField step "n" countLimit
    pure (do VectorMap.reserve providers.slots providers.values count; pure none)
  | "release" => pure (do VectorMap.release providers.slots providers.values; pure none)
  | "all" =>
    pure (do
      let entries ← Mutation.check (← Mutation.container).entries
      let shown ← readDuring (listedItems step entries)
      return some (.array (shown.map fun (key, stored) => .array [keyJson key, bytesJson stored])))
  | other => refuse ("unknown vectormap step " ++ Quoted.quote other)

/-- Answers one step of a vector map script. -/
def vectorMapAnswer (kind : KeyKind) (providers : VectorMapProviders)
    (state : Accounted KeyedVectorMap) (step : Json) : Accounted KeyedVectorMap × Json :=
  let reportsBefore := state.allocator.journal.reports.size
  let (outcome, state) := match vectorMapAction kind providers step with
    | .ok action => state.run action
    | .error failure => (.error failure, state)
  let fields := match outcome with
    | .ok result => match vectorMapFields state.container with
      | .ok fields => fields ++ (result.map fun value => ("result", value)).toList
      | .error failure => failure.fields
    | .error failure => failure.fields
  (state, .object (fields ++ state.memFields reportsBefore))

/-- Answers a `vectormap` request. -/
def vectorMapScript (request : Json) : Outcome Json := do
  let typeName ← textField request "key" "int64"
  let kind ← match typeName with
    | "int64" => pure (KeyKind.signed 64)
    | "string" => pure KeyKind.text
    | other => refuse ("unknown key type " ++ Quoted.quote other)
  let allocator ← readAccounting request
  let probing ← readProbing request
  let loadFactor ← readLoadFactor request
  let slot : ElementType :=
    { name := "container.slot[" ++ typeName ++ ",int]", size := kind.slotSize, alignment := 8 }
  let providers : VectorMapProviders :=
    { slots := allocatorProvider slot "VectorMap",
      values := allocatorProvider textCodec.element "VectorMap" }
  let hasher : Hasher Key := { hash := kind.hash, equal := kind.equal }
  let map : KeyedVectorMap :=
    { index := HashMap.empty hasher probing loadFactor slot.size allocator.isSome,
      values := Vector.empty textCodec.element.size allocator.isSome }
  let state : Accounted KeyedVectorMap :=
    { container := map, allocator := allocator.getD default, present := allocator.isSome }
  let steps ← scriptSteps request
  let (_, answers) := runScript (vectorMapAnswer kind providers) state steps
  pure (.object [("steps", .array answers)])

end HeapKit.Request
