import HeapKit.Request.Failure
import HeapKit.Float.Binary
import HeapKit.Text.Hex
import HeapKit.Text.Utf8
import HeapKit.Json.Print
import HeapKit.Text.Quoted

/-!
# Reading request fields

Typed readers for the fields of a request. A missing field takes the reader's
default, is refused as missing, or is read as a null, as each field of each
request has it. Integers must be written as integers and lie in the range of the type
they feed; byte strings are a string (its UTF-8 bytes) or an object whose
`hex` field spells the bytes; floats are numbers or one of the names `NaN`,
`+Inf`, `Inf`, `-Inf` and `-0`. Text and flag fields must be strings and
booleans (a null is neither), and refusals of byte strings name their field.
-/

namespace HeapKit.Request

/-- The document of a field, if the request has it; a null is a document too. -/
def fieldOf (request : Json) (name : String) : Option Json := request.field? name

/-- The range of a signed word of `width` bits. -/
def signedRange (width : Nat) : Int × Int := (-Int.pow 2 (width - 1), Int.pow 2 (width - 1) - 1)

/-- A signed 64-bit integer: a number written as an integer in range. Any other
number is refused with the text it was written with. -/
def readInt64 (label : String) (document : Json) : Outcome Int64 :=
  match document with
  | .number numeral =>
    match numeral.toInt? with
    | some value =>
      if (signedRange 64).1 ≤ value && value ≤ (signedRange 64).2 then .ok (Int64.ofInt value)
      else refuse s!"{label}: not an int64: {numeral.written}"
    | none => refuse s!"{label}: not an int64: {numeral.written}"
  | _ => refuse s!"{label} is not a number"

/-- An unsigned 64-bit integer: a number written as an integer in range with no
sign. Any other number is refused with the text it was written with. -/
def readUInt64 (label : String) (document : Json) : Outcome UInt64 :=
  match document with
  | .number numeral =>
    match numeral.toInt? with
    | some value =>
      if !numeral.isNegative && value < Int.pow 2 64 then
        .ok value.toNat.toUInt64
      else refuse s!"{label}: not a uint64: {numeral.written}"
    | none => refuse s!"{label}: not a uint64: {numeral.written}"
  | _ => refuse s!"{label} is not a number"

/-- A signed 64-bit field with a default. -/
def intField (request : Json) (name : String) (default : Int64 := 0) : Outcome Int64 :=
  match fieldOf request name with
  | none => .ok default
  | some document => readInt64 name document

/-- A field that must be given; a null counts as given. -/
def requiredField (request : Json) (name : String) : Outcome Json :=
  match fieldOf request name with
  | some document => .ok document
  | none => refuse s!"missing field \"{name}\""

/-- A signed 64-bit field that must be given. -/
def requiredInt (request : Json) (name : String) : Outcome Int64 := do
  readInt64 name (← requiredField request name)

/-- A signed 64-bit field read as a number also when it is absent, which then
is refused as not being one. -/
def numberField (request : Json) (name : String) : Outcome Int64 :=
  readInt64 name ((fieldOf request name).getD .null)

/-- A count or size that must be given and may not pass `limit`. -/
def limitedField (request : Json) (name : String) (limit : Int) : Outcome Int64 := do
  let value ← requiredInt request name
  if limit < value.toInt then refuse s!"{name} above driver limit"
  pure value

/-- An unsigned 64-bit field with a default. -/
def uintField (request : Json) (name : String) (default : UInt64 := 0) : Outcome UInt64 :=
  match fieldOf request name with
  | none => .ok default
  | some document => readUInt64 name document

/-- A boolean field with a default; a null is not a boolean. -/
def boolField (request : Json) (name : String) (default : Bool := false) : Outcome Bool :=
  match fieldOf request name with
  | none => .ok default
  | some (.bool value) => .ok value
  | some _ => refuse s!"field \"{name}\" is not a bool"

/-- A text field with a default; a null is not text. -/
def textField (request : Json) (name : String) (default : String := "") : Outcome String :=
  match fieldOf request name with
  | none => .ok default
  | some (.string value) => .ok value
  | some _ => refuse s!"field \"{name}\" is not a string"

/-- A text field that must be given. -/
def requiredText (request : Json) (name : String) : Outcome String := do
  let _ ← requiredField request name
  textField request name

/-- A byte string: a string's UTF-8 bytes, or the bytes of an object's `hex`
text. Refusals name the field by `label`. -/
def readBytes (label : String) (document : Json) : Outcome (List UInt8) :=
  match document with
  | .string text => .ok (Utf8.encode text)
  | .object _ =>
    match document.field? "hex" with
    | some (.string digits) =>
      match Hex.decode? digits with
      | some bytes => .ok bytes
      | none => refuse s!"{label}: bad hex"
    | _ => refuse s!"{label}: object without hex"
  | _ => refuse s!"{label} is not a string"

/-- A byte string that may also be written as a number, which stands for the
characters it is written with. -/
def readTextual (label : String) (document : Json) : Outcome (List UInt8) :=
  match document with
  | .number numeral => .ok (Utf8.encode numeral.written)
  | other => readBytes label other

/-- A text field of a configuration object as bytes, with a default. -/
def configTextField (document : Json) (name : String) (default : List UInt8) :
    Outcome (List UInt8) :=
  match fieldOf document name with
  | none => .ok default
  | some _ => do .ok (Utf8.encode (← textField document name))

/-- A byte-string field with a default. -/
def bytesField (request : Json) (name : String) (default : List UInt8 := []) :
    Outcome (List UInt8) :=
  match fieldOf request name with
  | none => .ok default
  | some document => readBytes name document

/-- A binary64 value: a number, or one of the names of the special values. A
number too large for the format, which would round to an infinity, is refused. -/
def readFloat (label : String) (document : Json) : Outcome Binary64 :=
  match document with
  | .number numeral =>
    let value := Binary64.ofNumeral numeral
    if value.isInfinite then refuse s!"{label}: bad float" else .ok value
  | .string "NaN" => .ok Binary64.nan
  | .string "+Inf" => .ok Binary64.infinity
  | .string "Inf" => .ok Binary64.infinity
  | .string "-Inf" => .ok Binary64.negativeInfinity
  | .string "-0" => .ok Binary64.negativeZero
  | _ => refuse s!"{label} is not a float"

/-- An object field; a missing field is the empty object. -/
def objectField (request : Json) (name : String) : Outcome Json :=
  match fieldOf request name with
  | none => .ok (.object [])
  | some (.object fields) => .ok (.object fields)
  | some _ => refuse s!"{name} is not an object"

/-- A list field that must be given. -/
def requiredListField (request : Json) (name : String) : Outcome (List Json) :=
  match fieldOf request name with
  | none => refuse s!"missing field \"{name}\""
  | some (.array items) => .ok items
  | some _ => refuse s!"field \"{name}\" is not a list"

/-- A list field; a missing field is the empty list. -/
def listField (request : Json) (name : String) : Outcome (List Json) :=
  match fieldOf request name with
  | none => .ok []
  | some (.array items) => .ok items
  | some _ => refuse s!"field \"{name}\" is not a list"

/-- A list of values that must be given, as a list, under the field `name`;
whatever the field, the refusal speaks of values. -/
def valueList (request : Json) (name : String) : Outcome (List Json) :=
  match fieldOf request name with
  | some (.array items) => .ok items
  | _ => refuse "values is not a list"

/-- Reads every item of a list with `reader`. -/
def readEach {α : Type} (reader : Json → Outcome α) : List Json → Outcome (List α)
  | [] => .ok []
  | item :: rest => do
    let head ← reader item
    let tail ← readEach reader rest
    .ok (head :: tail)

/-- A byte string as an answer: text when it is well-formed UTF-8, otherwise a
`hex` object. -/
def bytesJson (bytes : List UInt8) : Json :=
  match Utf8.decode? bytes with
  | some chars => .string (String.ofList chars)
  | none => .object [("hex", .string (Hex.encode bytes))]

end HeapKit.Request
