import HeapKit.Yaml.Token
import HeapKit.Yaml.Timestamp
import HeapKit.Text.Integer
import HeapKit.Float.Binary

/-!
# What a scalar stands for

A scalar's tag says what kind of value its text denotes. Tags are kept in short
form: a standard tag `tag:yaml.org,2002:name` is written `!!name`. A plain
scalar without a tag gets the tag its text resolves to:

* words: `true`, `True`, `TRUE` and their `false` forms are booleans; the empty
  text, `~` and `null`, `Null`, `NULL` are null; `.nan`, `.inf`, `+.inf`,
  `-.inf` in three spellings each are floats;
* a text starting with a sign or a digit is a timestamp (see the timestamp
  layouts), else, with underscores dropped, a 64-bit integer in any base
  prefix, an unsigned 64-bit integer, a decimal float that does not overflow,
  or a binary or octal integer written `0b…`, `0o…`, `-0b…`, `-0o…`;
* a text starting with a point may be a decimal float;
* anything else is a string.

With an explicit tag among the standard scalar tags, the text must resolve to
that tag; an integer asked for as a float becomes one. Other tags are not
looked into: their text is a string.
-/

namespace HeapKit.Yaml

open HeapKit.IntegerText

/-- The start of the long form of a standard tag. -/
def standardTagStart : String := "tag:yaml.org,2002:"

/-- A tag in short form: a standard tag as `!!name`. -/
def shortTag (tag : String) : String :=
  if tag.startsWith standardTagStart then "!!" ++ (tag.drop standardTagStart.length).toString
  else tag

/-- What a scalar stands for. -/
inductive ScalarValue where
  | null
  | boolean (value : Bool)
  /-- An integer in the signed 64-bit range. -/
  | integer (value : Int)
  /-- An integer above the signed 64-bit range, within the unsigned one. -/
  | unsigned (value : Nat)
  | float (value : Binary64)
  | timestamp
  | text (value : String)
  deriving Repr, Inhabited

/-- The tags whose text is resolved. -/
def resolvableTags : List String :=
  ["", "!!str", "!!bool", "!!int", "!!float", "!!timestamp", "!!null"]

/-- The words that stand for a fixed value, with its tag. -/
def wordValue? (text : String) : Option (String × ScalarValue) :=
  if ["true", "True", "TRUE"].contains text then some ("!!bool", .boolean true)
  else if ["false", "False", "FALSE"].contains text then some ("!!bool", .boolean false)
  else if ["", "~", "null", "Null", "NULL"].contains text then some ("!!null", .null)
  else if [".nan", ".NaN", ".NAN"].contains text then some ("!!float", .float Binary64.nan)
  else if [".inf", ".Inf", ".INF", "+.inf", "+.Inf", "+.INF"].contains text then
    some ("!!float", .float Binary64.infinity)
  else if ["-.inf", "-.Inf", "-.INF"].contains text then
    some ("!!float", .float Binary64.negativeInfinity)
  else none

/-! ### Decimal floats -/

/-- The digits of a mantissa read so far: their value, how many follow the
point, whether a point and a digit were seen, and whether an underscore was. -/
structure MantissaDigits where
  value : Nat := 0
  afterPoint : Nat := 0
  sawPoint : Bool := false
  sawDigit : Bool := false
  sawUnderscore : Bool := false

/-- Reads the digits, underscores and point of a mantissa, up to the first other
character or a second point. -/
def mantissaDigits : List Char → MantissaDigits → MantissaDigits × List Char
  | [], digits => (digits, [])
  | c :: rest, digits =>
    if c == '_' then mantissaDigits rest { digits with sawUnderscore := true }
    else if c == '.' then
      if digits.sawPoint then (digits, c :: rest)
      else mantissaDigits rest { digits with sawPoint := true }
    else if c.isDigit then
      mantissaDigits rest
        { digits with value := digits.value * 10 + digitOf c, sawDigit := true,
                      afterPoint := if digits.sawPoint then digits.afterPoint + 1 else digits.afterPoint }
    else (digits, c :: rest)

/-- Reads exponent digits and underscores; a value that reaches five digits
grows no further, which is already far beyond every finite float. -/
def exponentDigits : List Char → Nat → Bool → Nat × Bool × List Char
  | [], value, sawUnderscore => (value, sawUnderscore, [])
  | c :: rest, value, sawUnderscore =>
    if c == '_' then exponentDigits rest value true
    else if c.isDigit then
      exponentDigits rest (if value < 10000 then value * 10 + digitOf c else value) sawUnderscore
    else (value, sawUnderscore, c :: rest)

/-- Reads a whole text as a decimal float literal: an optional sign, digits with
at most one point and at least one digit, and an optional exponent; underscores
may separate digits. -/
def readDecimal? (text : String) : Option Numeral := do
  let (negative, chars) :=
    match text.toList with
    | '+' :: rest => (false, rest)
    | '-' :: rest => (true, rest)
    | chars => (false, chars)
  let (digits, rest) := mantissaDigits chars {}
  if !digits.sawDigit then none
  let (exponent, sawUnderscore, rest) ←
    match rest with
    | e :: afterMark =>
      if e == 'e' || e == 'E' then
        let (exponentNegative, afterSign) :=
          match afterMark with
          | '+' :: more => (false, more)
          | '-' :: more => (true, more)
          | more => (false, more)
        match afterSign with
        | d :: _ =>
          if !d.isDigit then none
          else
            let (value, sawUnderscore, rest) := exponentDigits afterSign 0 false
            some ((if exponentNegative then -(value : Int) else value), sawUnderscore, rest)
        | [] => none
      else some (0, false, rest)
    | [] => some (0, false, [])
  if !rest.isEmpty then none
  if (digits.sawUnderscore || sawUnderscore) && !underscoresAllowed text then none
  let mantissa : Int := if negative then -(digits.value : Int) else digits.value
  some { mantissa, exponent := exponent - digits.afterPoint, integer := false, written := text }


/-- The finite float a decimal text denotes, if it is one that does not overflow. -/
def decimalFloat? (text : String) : Option Binary64 := do
  let value := Binary64.ofNumeral (← readDecimal? text)
  if value.isInfinite then none else some value

/-- Whether a text has the shape of a float: an optional sign, then digits with
an optional point and fraction or a point and digits, then an optional exponent. -/
def hasFloatShape (text : String) : Bool :=
  let chars := match text.toList with
    | '+' :: rest | '-' :: rest => rest
    | chars => chars
  let afterMantissa : Option (List Char) :=
    match chars with
    | '.' :: rest =>
      if (rest.takeWhile Char.isDigit).isEmpty then none else some (rest.dropWhile Char.isDigit)
    | _ =>
      if (chars.takeWhile Char.isDigit).isEmpty then none
      else
        match chars.dropWhile Char.isDigit with
        | '.' :: rest => some (rest.dropWhile Char.isDigit)
        | rest => some rest
  match afterMantissa with
  | none => false
  | some [] => true
  | some (e :: rest) =>
    (e == 'e' || e == 'E') &&
      let rest := match rest with
        | '+' :: more | '-' :: more => more
        | more => more
      !rest.isEmpty && rest.all Char.isDigit

/-! ### Resolution -/

/-- The float nearest to an integer. -/
def floatOfInt (value : Int) : Binary64 :=
  Binary64.withSign (value < 0) (BinaryFormat.double.roundRatio value.natAbs 1)

/-- An integer in a fixed base with an optional sign, signed if it fits, else
unsigned when `unsignedToo`. -/
def integerInBase? (text : String) (base : Nat) (unsignedToo : Bool) : Option ScalarValue :=
  match parseSigned text base 64 with
  | .ok value => some (.integer value)
  | .error _ =>
    if unsignedToo then
      match parseUnsigned text base 64 with
      | .ok value => some (.unsigned value)
      | .error _ => none
    else none

/-- What a text that starts with a sign or a digit denotes, if a number. -/
def numberValue? (text : String) : Option ScalarValue :=
  let plain := text.replace "_" ""
  match integerInBase? plain 0 true with
  | some value => some value
  | none =>
    match (if hasFloatShape plain then decimalFloat? plain else none) with
    | some value => some (.float value)
    | none =>
      let binary :=
        if plain.startsWith "0b" then integerInBase? (plain.drop 2).toString 2 true
        else if plain.startsWith "-0b" then integerInBase? ("-" ++ (plain.drop 3).toString) 2 false
        else none
      match binary with
      | some value => some value
      | none =>
        if plain.startsWith "0o" then integerInBase? (plain.drop 2).toString 8 true
        else if plain.startsWith "-0o" then integerInBase? ("-" ++ (plain.drop 3).toString) 8 false
        else none

/-- The tag and value a text resolves to under a resolvable tag, before the tag
is checked. -/
def resolveText (tag text : String) : String × ScalarValue :=
  let first := text.toList.head?
  let hinted := match first with
    | none => true
    | some c => "+-0123456789yYnNtTfFoO~.".contains c
  if !hinted || tag == "!!str" then ("!!str", .text text) else
  match wordValue? text with
  | some resolved => resolved
  | none =>
    match first with
    | some '.' =>
      match decimalFloat? text with
      | some value => ("!!float", .float value)
      | none => ("!!str", .text text)
    | some c =>
      if "+-0123456789".contains c then
        if (tag == "" || tag == "!!timestamp") && isTimestamp text then ("!!timestamp", .timestamp)
        else
          match numberValue? text with
          | some (.float value) => ("!!float", .float value)
          | some value => ("!!int", value)
          | none => ("!!str", .text text)
      else ("!!str", .text text)
    | none => ("!!str", .text text)

/-- The tag and value of a scalar with the given tag and text. A tag outside the
resolvable ones keeps the text as a string. -/
def resolve (tag text : String) : Except YamlError (String × ScalarValue) := do
  let tag := shortTag tag
  if !resolvableTags.contains tag then return (tag, .text text)
  let (resolvedTag, value) := resolveText tag text
  if tag == "" || tag == resolvedTag || tag == "!!str" then return (resolvedTag, value)
  if tag == "!!float" then
    if let .integer whole := value then return ("!!float", .float (floatOfInt whole))
  throw (.plain ("cannot decode " ++ resolvedTag ++ " `" ++ text ++ "` as a " ++ tag))

/-- The tag a plain scalar without a tag resolves to. -/
def plainTag (text : String) : String := (resolveText "" text).1

end HeapKit.Yaml
