import HeapKit.Json.Value

/-!
# Writing documents

Answers are written compactly: no blanks between tokens, fields in the order
they were built. A numeral written as an integer is printed in positional
digits; any other numeral is printed as its mantissa followed by `e` and its
decimal exponent, which reads back as the same number and is never taken for an
integer. Quotes, backslashes and control characters inside strings are escaped.
-/

namespace HeapKit

namespace Numeral

/-- The text of a numeral. -/
def render (numeral : Numeral) : String :=
  if numeral.integer && numeral.exponent ≥ 0 then
    toString (numeral.mantissa * Int.pow 10 numeral.exponent.toNat)
  else
    toString numeral.mantissa ++ "e" ++ toString numeral.exponent

end Numeral

namespace Json

/-- The four lowercase hexadecimal digits of a code unit below 65536. -/
def hexUnit (value : Nat) : String :=
  let digit (d : Nat) : Char := if d < 10 then Char.ofNat (48 + d) else Char.ofNat (87 + d)
  String.ofList [digit (value / 4096 % 16), digit (value / 256 % 16), digit (value / 16 % 16),
    digit (value % 16)]

/-- The escaped form of one character inside a string. -/
def escapeChar (c : Char) : String :=
  if c == '"' then "\\\""
  else if c == '\\' then "\\\\"
  else if c == '\n' then "\\n"
  else if c == '\r' then "\\r"
  else if c == '\t' then "\\t"
  else if c.toNat < 0x20 then "\\u" ++ hexUnit c.toNat
  else c.toString

/-- Appends a string, quoted and escaped, to the text written so far. -/
def appendQuoted (out : String) (s : String) : String :=
  (s.foldl (fun out c => out ++ escapeChar c) (out.push '"')).push '"'

/-- A string with its quotes. -/
def quote (s : String) : String := appendQuoted "" s

mutual

/-- Appends the compact text of a document to the text written so far. Writing
into one growing text keeps the work linear in the length of the answer. -/
def renderTo (out : String) : Json → String
  | .null => out ++ "null"
  | .bool true => out ++ "true"
  | .bool false => out ++ "false"
  | .number n => out ++ n.render
  | .string s => appendQuoted out s
  | .array items => renderItemsTo (out.push '[') items |>.push ']'
  | .object fields => renderFieldsTo (out ++ "\x7b") fields ++ "\x7d"

/-- Appends the items of an array, separated by commas. -/
def renderItemsTo (out : String) : List Json → String
  | [] => out
  | [item] => renderTo out item
  | item :: rest => renderItemsTo ((renderTo out item).push ',') rest

/-- Appends the fields of an object, separated by commas. -/
def renderFieldsTo (out : String) : List (String × Json) → String
  | [] => out
  | [(name, value)] => renderTo ((appendQuoted out name).push ':') value
  | (name, value) :: rest =>
    renderFieldsTo ((renderTo ((appendQuoted out name).push ':') value).push ',') rest

end

/-- The compact text of a document. -/
def render (document : Json) : String := renderTo "" document

end Json

end HeapKit
