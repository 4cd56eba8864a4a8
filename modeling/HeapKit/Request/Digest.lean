import HeapKit.Request.Keys
import HeapKit.Hash.XxHash
import HeapKit.Hash.Fnv

/-!
# Hash requests

`hash` requests apply one of the string hashes to a byte string (djb2 when the
request names none), or the default hash of a key kind to a key; for a few
kinds a second key may be given and the answer then also says whether the two
keys are equal. Keys of strings must be strings here.
-/

namespace HeapKit.Request

/-- The default hash of a key, and equality with a second key where asked. -/
def defaultDigest (request : Json) : Outcome Json := do
  let typeName ← requiredText request "type"
  let kind ← match typeName with
    | "uint" => .ok (.unsigned 64)
    | "uintptr" => .ok (.unsigned 64)
    | name =>
      match keyKindOf? name with
      | some kind => .ok kind
      | none => refuse ("unknown type " ++ Quoted.quote name)
  let key ← readStrictKey "key" kind ((fieldOf request "key").getD .null)
  let hash := Json.nat (kind.hash key).toNat
  let comparesEqual := typeName == "int" || typeName == "float64" || typeName == "float32"
    || typeName == "string"
  match fieldOf request "other" with
  | some other =>
    if comparesEqual then do
      let second ← readStrictKey "other" kind other
      .ok (.object [("equal", .bool (kind.equal key second)), ("hash", hash)])
    else .ok (.object [("hash", hash)])
  | none => .ok (.object [("hash", hash)])

/-- Answers a `hash` request. -/
def digest (request : Json) : Outcome Json := do
  let function ← textField request "fn" "djb2"
  let stringHash (hash : List UInt8 → UInt64) : Outcome Json := do
    let key ← readBytes "key" ((fieldOf request "key").getD .null)
    .ok (.object [("hash", Json.nat (hash key).toNat)])
  match function with
  | "djb2" => stringHash Hash.djb2
  | "stringref" => stringHash Hash.djb2
  | "xxhash" => stringHash Hash.xxHash64
  | "fnv1a" => stringHash Hash.fnv1a
  | "default" => defaultDigest request
  | other => refuse ("unknown fn " ++ Quoted.quote other)

end HeapKit.Request
