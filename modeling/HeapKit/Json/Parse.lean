import HeapKit.Json.Value
import HeapKit.Text.Quoted

/-!
# Reading documents

A reader takes the characters of one line and returns the document they spell,
or the reason they spell none. Every step reads from the front of a character
list and hands back the rest.

Strings follow the usual escapes. A `\u` escape names a UTF-16 unit: a high
surrogate followed by an escaped low surrogate makes one character, and a
surrogate that stands alone becomes U+FFFD, the replacement character.

A document that does not read fails at its first offending character, with
what was expected there: `invalid character 'x' looking for beginning of value`,
`... after object key`, `... in numeric literal` and so on, or `unexpected end
of JSON input` when the text stops inside a string, an array or an object.
Where a number, a literal or an escape stops at the end of the text, the
message names a space, the character the end reads as. A character beyond
ASCII is named by its first UTF-8 byte, read as a Latin-1 character. At most
10000 arrays and objects may be open at once.

Besides the depth, nesting is bounded by a fuel argument set to the length of
the input plus one: each nested call consumes at least one character, so the
bound is never the reason a well-formed document fails.
-/

namespace HeapKit.Json

/-- What a reading step returns: a value and the characters after it. -/
abbrev Step (α : Type) := Except String (α × List Char)

/-- Drops blanks (space, tab, line feed, carriage return) from the front. -/
def skipBlank : List Char → List Char
  | c :: rest => if c == ' ' || c == '\t' || c == '\n' || c == '\r' then skipBlank rest else c :: rest
  | [] => []

/-- The value of a hexadecimal digit. -/
def hexDigit? (c : Char) : Option Nat :=
  if '0' ≤ c && c ≤ '9' then some (c.toNat - '0'.toNat)
  else if 'a' ≤ c && c ≤ 'f' then some (c.toNat - 'a'.toNat + 10)
  else if 'A' ≤ c && c ≤ 'F' then some (c.toNat - 'A'.toNat + 10)
  else none

/-- The code unit spelled by the four hexadecimal digits of a `\u` escape. -/
def unitOf (a b c d : Char) : Option Nat := do
  let a ← hexDigit? a
  let b ← hexDigit? b
  let c ← hexDigit? c
  let d ← hexDigit? d
  some (((a * 16 + b) * 16 + c) * 16 + d)

/-- The replacement character, for a unit that makes no character. -/
def replacement : Char := Char.ofNat 0xFFFD

/-- The character after a backslash, for the one-letter escapes. -/
def simpleEscape? : Char → Option Char
  | '"' => some '"'
  | '\\' => some '\\'
  | '/' => some '/'
  | 'b' => some (Char.ofNat 8)
  | 'f' => some (Char.ofNat 12)
  | 'n' => some '\n'
  | 'r' => some '\r'
  | 't' => some '\t'
  | _ => none

/-- How a message names the character where reading failed. -/
def shownChar (c : Char) : String :=
  let byte := if c.toNat < 0x80 then c.toNat else ((Utf8.encode c.toString).headD 0).toNat
  if byte == 0x27 then "'\\''"
  else if byte == 0x22 then "'\"'"
  else "'" ++ Quoted.escape (Char.ofNat byte) ++ "'"

/-- The message for an unexpected character, with what was expected. -/
def invalid (c : Char) (context : String) : String :=
  "invalid character " ++ shownChar c ++ " " ++ context

/-- The message for a text that stops too early. -/
def endOfInput : String := "unexpected end of JSON input"

/-- The character the end of the text reads as, for messages. -/
def endChar : Char := ' '

/-- Reads the body of a string up to its closing quote. The characters read so
far are kept in reverse. -/
def readStringBody (acc : List Char) : List Char → Step String
  | [] => .error endOfInput
  | '"' :: rest => .ok (String.ofList acc.reverse, rest)
  | '\\' :: 'u' :: a :: b :: c :: d :: rest =>
    match [a, b, c, d].find? (fun x => (hexDigit? x).isNone) with
    | some bad => .error (invalid bad "in \\u hexadecimal character escape")
    | none =>
      let unit := (unitOf a b c d).getD 0
      if 0xD800 ≤ unit && unit < 0xDC00 then
        match _following : rest with
        | '\\' :: 'u' :: e :: f :: g :: h :: more =>
          match unitOf e f g h with
          | some low =>
            if 0xDC00 ≤ low && low < 0xE000 then
              readStringBody
                (Char.ofNat (0x10000 + (unit - 0xD800) * 0x400 + (low - 0xDC00)) :: acc) more
            else readStringBody (replacement :: acc) rest
          | none => readStringBody (replacement :: acc) rest
        | _ => readStringBody (replacement :: acc) rest
      else if 0xDC00 ≤ unit && unit < 0xE000 then readStringBody (replacement :: acc) rest
      else readStringBody (Char.ofNat unit :: acc) rest
  | '\\' :: 'u' :: rest =>
    match rest.find? (fun x => (hexDigit? x).isNone) with
    | some bad => .error (invalid bad "in \\u hexadecimal character escape")
    | none => .error (invalid endChar "in \\u hexadecimal character escape")
  | '\\' :: c :: rest =>
    match simpleEscape? c with
    | some e => readStringBody (e :: acc) rest
    | none => .error (invalid c "in string escape code")
  | ['\\'] => .error (invalid endChar "in string escape code")
  | c :: rest =>
    if c.toNat < 0x20 then .error (invalid c "in string literal")
    else readStringBody (c :: acc) rest
termination_by input => input.length
decreasing_by all_goals (try subst_vars) <;> simp only [List.length_cons] <;> omega

/-- Splits off the leading decimal digits and returns their value and count. -/
def readDigits (value count : Nat) : List Char → Nat × Nat × List Char
  | c :: rest =>
    if c.isDigit then readDigits (value * 10 + (c.toNat - '0'.toNat)) (count + 1) rest
    else (value, count, c :: rest)
  | [] => (value, count, [])

/-- Requires a digit at the front, else fails with `context`. -/
def requireDigit (context : String) : List Char → Except String Unit
  | [] => .error (invalid endChar context)
  | c :: _ => if c.isDigit then .ok () else .error (invalid c context)

/-- Reads a number: an optional minus, an integer part that is `0` or starts
with another digit, an optional fraction and an optional exponent. -/
def readNumber (input : List Char) : Except String (Numeral × List Char) := do
  let (negative, afterSign) := match input with
    | '-' :: rest => (true, rest)
    | rest => (false, rest)
  requireDigit "in numeric literal" afterSign
  let (intValue, _, afterInt) := match afterSign with
    | '0' :: rest => (0, 1, rest)
    | digits => readDigits 0 0 digits
  let (mantissa, fracCount, afterFrac, hasPoint) ← match afterInt with
    | '.' :: rest => do
      requireDigit "after decimal point in numeric literal" rest
      let (v, n, r) := readDigits intValue 0 rest
      pure (v, n, r, true)
    | rest => pure (intValue, 0, rest, false)
  let (exponent, rest, hasExponent) ← match afterFrac with
    | e :: rest =>
      if e == 'e' || e == 'E' then do
        let (expNegative, digits) := match rest with
          | '-' :: more => (true, more)
          | '+' :: more => (false, more)
          | more => (false, more)
        requireDigit "in exponent of numeric literal" digits
        let (v, _, r) := readDigits 0 0 digits
        pure ((if expNegative then -(v : Int) else v), r, true)
      else pure (0, e :: rest, false)
    | [] => pure (0, [], false)
  let signed : Int := if negative then -(mantissa : Int) else mantissa
  let written := String.ofList (input.take (input.length - rest.length))
  pure ({ mantissa := signed, exponent := exponent - fracCount, integer := !(hasPoint || hasExponent),
          written }, rest)

/-- Reads the rest of the literal `name` after its first letter. -/
def readWord (name : String) (value : Json) : List Char → List Char → Step Json
  | [], input => .ok (value, input)
  | expected :: more, input =>
    let context := "in literal " ++ name ++ " (expecting " ++ shownChar expected ++ ")"
    match input with
    | [] => .error (invalid endChar context)
    | c :: rest => if c == expected then readWord name value more rest else .error (invalid c context)

/-- The deepest nesting of arrays and objects. -/
def maxDepth : Nat := 10000

mutual

/-- Reads one document from the front, after any blanks, with `depth` arrays and
objects open around it. -/
def readValue : Nat → Nat → List Char → Step Json
  | 0, _, _ => .error endOfInput
  | fuel + 1, depth, input =>
    match skipBlank input with
    | '{' :: rest =>
      if depth + 1 > maxDepth then .error (invalid '{' "exceeded max depth") else
      match skipBlank rest with
      | '}' :: after => .ok (.object [], after)
      | body => readFields fuel (depth + 1) [] body
    | '[' :: rest =>
      if depth + 1 > maxDepth then .error (invalid '[' "exceeded max depth") else
      match skipBlank rest with
      | ']' :: after => .ok (.array [], after)
      | body => readItems fuel (depth + 1) [] body
    | '"' :: rest => (readStringBody [] rest).map fun (s, r) => (.string s, r)
    | 't' :: rest => readWord "true" (.bool true) ['r', 'u', 'e'] rest
    | 'f' :: rest => readWord "false" (.bool false) ['a', 'l', 's', 'e'] rest
    | 'n' :: rest => readWord "null" .null ['u', 'l', 'l'] rest
    | [] => .error endOfInput
    | c :: rest =>
      if c == '-' || c.isDigit then (readNumber (c :: rest)).map fun (n, r) => (.number n, r)
      else .error (invalid c "looking for beginning of value")

/-- Reads the items of an array after its opening bracket. Items read so far are
kept in reverse. -/
def readItems : Nat → Nat → List Json → List Char → Step Json
  | 0, _, _, _ => .error endOfInput
  | fuel + 1, depth, acc, input =>
    match readValue fuel depth input with
    | .error message => .error message
    | .ok (item, rest) =>
      match skipBlank rest with
      | ',' :: more => readItems fuel depth (item :: acc) more
      | ']' :: more => .ok (.array (item :: acc).reverse, more)
      | [] => .error endOfInput
      | c :: _ => .error (invalid c "after array element")

/-- Reads the fields of an object after its opening brace or a comma. Fields
read so far are kept in reverse. -/
def readFields : Nat → Nat → List (String × Json) → List Char → Step Json
  | 0, _, _, _ => .error endOfInput
  | fuel + 1, depth, acc, input =>
    match skipBlank input with
    | '"' :: rest =>
      match readStringBody [] rest with
      | .error message => .error message
      | .ok (name, afterName) =>
        match skipBlank afterName with
        | ':' :: afterColon =>
          match readValue fuel depth afterColon with
          | .error message => .error message
          | .ok (value, rest) =>
            match skipBlank rest with
            | ',' :: more => readFields fuel depth ((name, value) :: acc) more
            | '}' :: more => .ok (.object ((name, value) :: acc).reverse, more)
            | [] => .error endOfInput
            | c :: _ => .error (invalid c "after object key:value pair")
        | [] => .error endOfInput
        | c :: _ => .error (invalid c "after object key")
    | [] => .error endOfInput
    | c :: _ => .error (invalid c "looking for beginning of object key string")

end

/-- Reads a whole line as one document; only blanks may follow it. -/
def parse (text : String) : Except String Json :=
  let input := text.toList
  match readValue (input.length + 1) 0 input with
  | .error message => .error message
  | .ok (document, rest) =>
    match skipBlank rest with
    | [] => .ok document
    | c :: _ => .error (invalid c "after top-level value")

end HeapKit.Json
