import HeapKit.Request.Accounting
import HeapKit.Request.Keys
import HeapKit.Request.Elements
import HeapKit.Request.VectorScript
import HeapKit.Container.HashMap.Basic
import HeapKit.Hash.XxHash
import HeapKit.Hash.Fnv

/-!
# Hash map scripts

A hash map from keys of one kind to 64-bit integers, driven by a script. The
request chooses the key kind, the hash (the kind's default, or one of the
string hashes for string keys, which is checked before the key kind itself),
the probing (an object) and the load factor (a list of a numerator and a
denominator); an invalid load factor aborts the whole request.

Every answer shows the map's counters after the step: entries, slots in all,
usable slots, tombstones, and occupied slots with tombstones; queries add a
`result`. Range steps work on the words `start + i * step`, each read as a key
of the map's kind as if the step had given it; the first word that makes no key
stops the step, which keeps what it did before. A listing reads its `limit`
only when the map has entries.
-/

namespace HeapKit.Request

open HeapKit.Memory

/-- The maps of scripts: keys of one kind to 64-bit integers. -/
abbrev KeyedMap := HashMap Key Int64

/-- The bytes of a byte string key. -/
def keyText : Key → List UInt8
  | .bytes value => value
  | _ => []

/-- The hasher a request names, by its name and the name of the key type. Any
hasher but the default needs string keys, which is checked before the key type
itself; the string hashes then hash the key's bytes. -/
def readHasherName (typeName : String) (request : Json) : Outcome String := do
  let name ← textField request "hasher" "default"
  if name != "default" && typeName != "string" then
    refuse ("hasher " ++ Quoted.quote name ++ " needs string keys")
  pure name

/-- The hasher of a name for keys of a kind. -/
def hasherOf (kind : KeyKind) : String → Outcome (Hasher Key)
  | "default" => pure { hash := kind.hash, equal := kind.equal }
  | "xxhash" => pure { hash := fun key => Hash.xxHash64 (keyText key), equal := (· == ·) }
  | "fnv1a" => pure { hash := fun key => Hash.fnv1a (keyText key), equal := (· == ·) }
  | other => refuse ("unknown hasher " ++ Quoted.quote other)

/-- The probing a request names: one slot per round and no pre-shuffle by
default. When given it must be an object. -/
def readProbing (request : Json) : Outcome Probing := do
  match fieldOf request "probing" with
  | none => pure Probing.standard
  | some (.object fields) =>
    let document := Json.object fields
    let linearSteps ← intField document "linear_steps" 1
    let preShuffle ← boolField document "pre_shuffle"
    pure { linearSteps, preShuffle }
  | some _ => refuse "probing is not an object"

/-- The load factor a request names, one half by default: a list of a numerator
and a denominator. An invalid one aborts. -/
def readLoadFactor (request : Json) : Outcome LoadFactor := do
  match fieldOf request "load_factor" with
  | none => pure LoadFactor.half
  | some (.array [numerator, denominator]) =>
    let factor : LoadFactor := ⟨← readInt64 "num" numerator, ← readInt64 "den" denominator⟩
    if factor.isValid then pure factor else .error (.abort factor.invalidMessage)
  | some (.array _) => refuse "load_factor must be [num, den]"
  | some _ => refuse "field \"load_factor\" is not a list"

/-- The slot type of a map with keys of a kind, as allocations name it. -/
def slotElement (typeName : String) (kind : KeyKind) : ElementType :=
  { name := "container.slot[" ++ typeName ++ ",int64]", size := kind.slotSize, alignment := 8 }

/-- The key a range step makes of a word: the word read as a key of the kind,
as if the step had given it as a number. -/
def rangeKey (kind : KeyKind) (word : Int64) : Outcome Key := readKey kind (Json.int word.toInt)

/-- The words `start + i * step` of a range step; `count` must be given and may
not pass the limit, and `start` is read next, as a number. -/
def rangeWords (step : Json) : Outcome (List Int64) := do
  let count ← limitedField step "count" countLimit
  let start ← numberField step "start"
  let stride ← intField step "step" 1
  pure ((List.range count.toInt.toNat).map fun index => start + Int64.ofNat index * stride)

/-- The key of a word inside a container operation. A word that makes no key
stops the operation, which keeps what it did with the words before. -/
def keyOrStop {σ γ : Type} (kind : KeyKind) (word : Int64) : Mutation σ γ Key :=
  match rangeKey kind word with
  | .ok key => pure key
  | .error failure => throw (.refused failure.message)

/-- The fields that show a map. -/
def mapFields (map : KeyedMap) : List (String × Json) :=
  [("len", .nat map.size), ("empty", .bool (map.size == 0)), ("total", .nat map.totalSlots),
   ("usable", .int map.usable.toInt), ("removed", .nat map.removed),
   ("occupied_and_removed", .nat map.occupiedAndRemoved)]

/-- A pure change of the map with a result. -/
def mapChange {β : Type} (change : KeyedMap → KeyedMap × β) : Mutation Allocator KeyedMap β := do
  let (map, result) := change (← Mutation.container)
  Mutation.setContainer map
  pure result

/-- The action of one step of a map script. -/
def mapAction (kind : KeyKind) (provider : Provider Allocator) (step : Json) :
    Outcome (Mutation Allocator KeyedMap (Option Json)) := do
  let key := fun (_ : Unit) => readKey kind ((fieldOf step "key").getD .null)
  let value := fun (_ : Unit) => numberField step "value"
  let query := fun (answer : KeyedMap → Json) =>
    (do pure (some (answer (← Mutation.container))) : Mutation Allocator KeyedMap (Option Json))
  let listing := fun (entryJson : Key × Int64 → Json) =>
    (pure (do
      let shown ← readDuring (listedItems step (← Mutation.container).entries)
      return some (.array (shown.map entryJson))) : Outcome (Mutation Allocator KeyedMap (Option Json)))
  match ← stepName step with
  | "add" =>
    let key ← key ()
    let value ← value ()
    pure (do pure (some (.bool (← HashMap.insert provider key value))))
  | "add_overwrite" =>
    let key ← key ()
    let value ← value ()
    pure (do pure (some (.bool (← HashMap.insertOrReplace provider key value))))
  | "add_new" =>
    let key ← key ()
    let value ← value ()
    pure (do let _ ← HashMap.insert provider key value; pure none)
  | "add_range" =>
    let words ← rangeWords step
    let factor ← intField step "mul" 1
    pure (do
      let added ← words.foldlM (fun added word => do
        let key ← keyOrStop kind word
        if ← HashMap.insert provider key (word * factor) then pure (added + 1) else pure added) 0
      pure (some (.nat added)))
  | "remove_range" =>
    let words ← rangeWords step
    pure (do
      let removed ← words.foldlM (fun removed word => do
        let key ← keyOrStop kind word
        match ← mapChange fun map => map.erase key with
        | some _ => pure (removed + 1)
        | none => pure removed) 0
      pure (some (.nat removed)))
  | "lookup_range" =>
    let keys ← (← rangeWords step).mapM (rangeKey kind)
    pure (query fun map =>
      let found := keys.filterMap fun key => map.get? key
      .object [("found", .nat found.length), ("sum", .int (found.foldl (· + ·) 0).toInt)])
  | "lookup" =>
    let key ← key ()
    pure (query fun map =>
      match map.get? key with
      | some stored => .object [("found", .bool true), ("value", .int stored.toInt)]
      | none => .object [("found", .bool false), ("value", .int 0)])
  | "lookup_default" =>
    let key ← key ()
    let value ← value ()
    pure (query fun map => .int ((map.get? key).getD value).toInt)
  | "lookup_ptr_set" =>
    let key ← key ()
    let value := value ()
    pure (do
      match (← Mutation.container).get? key with
      | none => pure (some (.object [("found", .bool false)]))
      | some old =>
        match value with
        | .error failure => throw (.refused failure.message)
        | .ok value =>
          let _ ← mapChange fun map => map.modifyExisting key fun _ => value
          pure (some (.object [("found", .bool true), ("old", .int old.toInt)])))
  | "lookup_or_add" =>
    let key ← key ()
    let value ← value ()
    pure (do
      match intField step "add_to" 0 with
      | .ok addition =>
        let before ← HashMap.findOrInsert provider key value (· + addition)
        pure (some (.int (before.getD 0).toInt))
      | .error failure =>
        let _ ← HashMap.findOrInsert provider key value id
        throw (.refused failure.message))
  | "contains" =>
    let key ← key ()
    pure (query fun map => .bool (map.contains key))
  | "remove" =>
    let key ← key ()
    pure (do pure (some (.bool (← mapChange fun map => map.erase key).isSome)))
  | "pop" =>
    let key ← key ()
    pure (do
      match ← mapChange fun map => map.erase key with
      | some stored => pure (some (.object [("found", .bool true), ("value", .int stored.toInt)]))
      | none => pure (some (.object [("found", .bool false), ("value", .int 0)])))
  | "reserve" =>
    let count ← limitedField step "n" countLimit
    pure (do HashMap.reserve provider count; pure none)
  | "clear" => pure (do HashMap.clear provider; pure none)
  | "release" => pure (do HashMap.release provider; pure none)
  | "items" => listing fun (key, stored) => .array [keyJson key, .int stored.toInt]
  | "keys" => listing fun (key, _) => keyJson key
  | "values" => listing fun (_, stored) => .int stored.toInt
  | other => refuse ("unknown hashmap step " ++ Quoted.quote other)

/-- Answers one step of a map script. -/
def mapAnswer (kind : KeyKind) (provider : Provider Allocator) (state : Accounted KeyedMap)
    (step : Json) : Accounted KeyedMap × Json :=
  let reportsBefore := state.allocator.journal.reports.size
  let (outcome, state) := match mapAction kind provider step with
    | .ok action => state.run action
    | .error failure => (.error failure, state)
  let fields := match outcome with
    | .ok result => mapFields state.container ++ (result.map fun value => ("result", value)).toList
    | .error failure => failure.fields
  (state, .object (fields ++ state.memFields reportsBefore))

/-- Answers a `hashmap` request. -/
def hashMapScript (request : Json) : Outcome Json := do
  let typeName ← textField request "key" "int64"
  let hasherName ← readHasherName typeName request
  let kind ← match keyKindOf? typeName with
    | some kind => pure kind
    | none => refuse ("unknown key type " ++ Quoted.quote typeName)
  let hasher ← hasherOf kind hasherName
  let allocator ← readAccounting request
  let probing ← readProbing request
  let loadFactor ← readLoadFactor request
  let steps ← scriptSteps request
  let element := slotElement typeName kind
  let provider := allocatorProvider element "HashMap"
  let map : KeyedMap := HashMap.empty hasher probing loadFactor element.size allocator.isSome
  let state : Accounted KeyedMap :=
    { container := map, allocator := allocator.getD default, present := allocator.isSome }
  let (_, answers) := runScript (mapAnswer kind provider) state steps
  pure (.object [("init", .object (mapFields map ++ state.memFields 0)), ("steps", .array answers)])

end HeapKit.Request
