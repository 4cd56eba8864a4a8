import HeapKit.Text.Hex
import HeapKit.Text.Printable
import HeapKit.Text.Utf8

/-!
# Quoted text in messages

Messages name user-supplied text in double quotes. Inside the quotes a quote and
a backslash are escaped by a backslash, and every printable character stands
for itself. A character that does not print is escaped: the usual control
characters by their letter escapes (`\a`, `\b`, `\f`, `\n`, `\r`, `\t`, `\v`),
other ASCII control characters and DEL as `\x` and two hex digits, the rest as
`\u` and four hex digits, or `\U` and eight above U+FFFF.

Quoted bytes are read as UTF-8; a byte that starts no well-formed sequence is
escaped on its own as `\x` and two hex digits.
-/

namespace HeapKit.Quoted

/-- A number as `width` lowercase hex digits. -/
def hexDigits (width value : Nat) : String :=
  String.ofList ((List.range width).reverse.map fun place => Hex.digit (value / Nat.pow 16 place % 16))

/-- The escaped form of one character. -/
def escape (c : Char) : String :=
  let code := c.toNat
  if c == '"' then "\\\""
  else if c == '\\' then "\\\\"
  else if Printable.isPrintable c then c.toString
  else if code == 7 then "\\a"
  else if code == 8 then "\\b"
  else if code == 12 then "\\f"
  else if c == '\n' then "\\n"
  else if c == '\r' then "\\r"
  else if c == '\t' then "\\t"
  else if code == 11 then "\\v"
  else if code < 0x20 || code == 0x7F then "\\x" ++ hexDigits 2 code
  else if code < 0x10000 then "\\u" ++ hexDigits 4 code
  else "\\U" ++ hexDigits 8 code

/-- The text in double quotes, escaped. -/
def quote (text : String) : String :=
  "\"" ++ String.join (text.toList.map escape) ++ "\""

/-- The escaped form of bytes read as UTF-8. -/
def escapeBytes (bytes : List UInt8) : String :=
  match bytes with
  | [] => ""
  | lead :: rest =>
    let more := Utf8.sequenceLength lead - 1
    match Utf8.decode? (lead :: rest.take more) with
    | some [c] => escape c ++ escapeBytes (rest.drop more)
    | _ => "\\x" ++ hexDigits 2 lead.toNat ++ escapeBytes rest
termination_by bytes.length
decreasing_by all_goals simp only [List.length_drop, List.length_cons]; omega

/-- Bytes in double quotes, escaped. -/
def quoteBytes (bytes : List UInt8) : String :=
  "\"" ++ escapeBytes bytes ++ "\""

end HeapKit.Quoted
