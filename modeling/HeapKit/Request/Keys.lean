import HeapKit.Request.Decode
import HeapKit.Container.Key
import HeapKit.Float.Text

/-!
# Keys in requests and answers

The names of key kinds, how a key of each kind is read from a request, and how
it is written in an answer: words as numbers, floats as their shortest text,
booleans as booleans, byte strings as text or hex.
-/

namespace HeapKit.Request

/-- The key kind a request names. -/
def keyKindOf? : String → Option KeyKind
  | "int8" => some (.signed 8)
  | "int16" => some (.signed 16)
  | "int32" => some (.signed 32)
  | "int64" => some (.signed 64)
  | "int" => some (.signed 64)
  | "uint8" => some (.unsigned 8)
  | "uint16" => some (.unsigned 16)
  | "uint32" => some (.unsigned 32)
  | "uint64" => some (.unsigned 64)
  | "float64" => some .binary64
  | "float32" => some .binary32
  | "bool" => some .boolean
  | "string" => some .text
  | "stringref" => some .textView
  | "collide" => some .collide
  | _ => none

/-- Reads a key of the given kind. Words are read through the 64-bit readers
first and then checked against their width. Keys of strings may also be written
as numbers, which stand for the characters they are written with, and are read
as values; views of strings must be strings. -/
def readKey (kind : KeyKind) (document : Json) : Outcome Key :=
  let inWidth (value : Int) (low high : Int) : Outcome Key :=
    if low ≤ value && value ≤ high then .ok (.integer value)
    else refuse ("value " ++ toString value ++ " out of range")
  match kind with
  | .signed width => do
    let value ← readInt64 "value" document
    let (low, high) := signedRange width
    inWidth value.toInt low high
  | .unsigned width => do
    let value ← readUInt64 "value" document
    inWidth value.toNat 0 (Int.pow 2 width - 1)
  | .binary64 => (readFloat "key" document).map .float64
  | .binary32 => (readFloat "key" document).map fun value => .float32 value.toBinary32
  | .boolean =>
    match document with
    | .bool value => .ok (.boolean value)
    | _ => refuse "key is not a bool"
  | .text => (readTextual "value" document).map .bytes
  | .textView => (readBytes "key" document).map .bytes
  | .collide => do
    let value ← readInt64 "key" document
    .ok (.integer value.toInt)

/-- Reads a key of the given kind where strings must be strings; refusals of
strings and floats name the field by `label`. -/
def readStrictKey (label : String) (kind : KeyKind) (document : Json) : Outcome Key :=
  match kind with
  | .text | .textView => (readBytes label document).map .bytes
  | .binary64 => (readFloat label document).map .float64
  | .binary32 => (readFloat label document).map fun value => .float32 value.toBinary32
  | other => readKey other document

/-- A key as an answer writes it. -/
def keyJson : Key → Json
  | .integer value => .int value
  | .float64 value => .string (FloatText.ofBinary64 value)
  | .float32 value => .string (FloatText.ofBinary32 value)
  | .boolean value => .bool value
  | .bytes value => bytesJson value

end HeapKit.Request
