/-!
# Integers written as text

An integer literal is an optional sign and digits in a base from 2 to 36, where
letters stand for the digits from ten up in either case. With the base left
open (base `0`), a prefix chooses it: `0b` binary, `0o` or a bare leading `0`
octal, `0x` hexadecimal, else decimal; only then may single underscores
separate digits, or a base prefix from a digit.

A reading fails for a character that is no digit of the base, or for a value
beyond the width. A value beyond the width is reported as soon as the digits
read so far exceed it, before any later character is looked at, and the
failure carries the nearest bound, which a setting that reads the text takes
as its new value.
-/

namespace HeapKit.IntegerText

/-- Why a text is not an integer of the expected width. -/
inductive NumberError where
  /-- The text is not an integer literal. -/
  | malformed
  /-- The value lies beyond the width; the bound nearest to it. -/
  | range (bound : Int)
  deriving DecidableEq, Repr, Inhabited

namespace NumberError

/-- The reason, as messages give it. -/
def reason : NumberError → String
  | .malformed => "invalid syntax"
  | .range _ => "value out of range"

end NumberError

/-- The value of a digit character, letters counting from ten in either case. -/
def digitValue? (c : Char) : Option Nat :=
  if '0' ≤ c && c ≤ '9' then some (c.toNat - '0'.toNat)
  else if 'a' ≤ c && c ≤ 'z' then some (c.toNat - 'a'.toNat + 10)
  else if 'A' ≤ c && c ≤ 'Z' then some (c.toNat - 'A'.toNat + 10)
  else none

/-- What was last seen while checking underscores: the start, a digit (or a base
prefix), an underscore, or something else. -/
inductive Seen where
  | start
  | digit
  | underscore
  | other
  deriving DecidableEq

/-- Checks the characters after an optional sign and base prefix. -/
def underscoresFit (hex : Bool) : Seen → List Char → Bool
  | seen, [] => seen != .underscore
  | seen, c :: rest =>
    if c.isDigit || (hex && "abcdefABCDEF".contains c) then underscoresFit hex .digit rest
    else if c == '_' then seen == .digit && underscoresFit hex .underscore rest
    else seen != .underscore && underscoresFit hex .other rest

/-- Whether every underscore stands between two digits, or between a base prefix
and a digit. -/
def underscoresAllowed (text : String) : Bool :=
  let chars := text.toList
  let chars := match chars with
    | '+' :: rest | '-' :: rest => rest
    | _ => chars
  match chars with
  | '0' :: c :: rest =>
    if "bBoOxX".contains c then underscoresFit (c == 'x' || c == 'X') .digit rest
    else underscoresFit false .start chars
  | _ => underscoresFit false .start chars

/-- Accumulates digits of `base` onto `value`. A value above `limit` stops the
reading at once; a character that is no digit stops it with a syntax error.
Underscores are skipped when `loose`, and the result says whether any was. -/
def accumulate (base limit : Nat) (loose : Bool) :
    List Char → Nat → Bool → Except NumberError (Nat × Bool)
  | [], value, sawUnderscore => .ok (value, sawUnderscore)
  | c :: rest, value, sawUnderscore =>
    if loose && c == '_' then accumulate base limit loose rest value true
    else
      match digitValue? c with
      | some digit =>
        if digit ≥ base then .error .malformed
        else if value * base + digit > limit then .error (.range limit)
        else accumulate base limit loose rest (value * base + digit) sawUnderscore
      | none => .error .malformed

/-- The base a prefix chooses and the digits after it, for a base left open. -/
def splitBase (chars : List Char) : Nat × List Char :=
  match chars with
  | '0' :: c :: rest@(_ :: _) =>
    if c == 'b' || c == 'B' then (2, rest)
    else if c == 'o' || c == 'O' then (8, rest)
    else if c == 'x' || c == 'X' then (16, rest)
    else (8, c :: rest)
  | '0' :: rest => (8, rest)
  | _ => (10, chars)

/-- Reads an unsigned integer of `bits` bits in `base`, or with the base left
open when `base` is `0`. -/
def parseUnsigned (text : String) (base bits : Nat) : Except NumberError Nat :=
  if text.isEmpty then .error .malformed else
  let loose := base == 0
  let (base, digits) := if loose then splitBase text.toList else (base, text.toList)
  match accumulate base (Nat.pow 2 bits - 1) loose digits 0 false with
  | .error error => .error error
  | .ok (value, sawUnderscore) =>
    if sawUnderscore && !underscoresAllowed text then .error .malformed else .ok value

/-- Reads a signed integer of `bits` bits: an optional sign, then an unsigned
literal. Out of range, the bound is the largest or the smallest value. -/
def parseSigned (text : String) (base bits : Nat) : Except NumberError Int :=
  if text.isEmpty then .error .malformed else
  let (negative, magnitudeText) :=
    match text.toList with
    | '+' :: rest => (false, String.ofList rest)
    | '-' :: rest => (true, String.ofList rest)
    | _ => (false, text)
  let half := Nat.pow 2 (bits - 1)
  let magnitude : Except NumberError Nat :=
    match parseUnsigned magnitudeText base bits with
    | .ok value => .ok value
    | .error (.range _) => .ok (Nat.pow 2 bits - 1)
    | .error .malformed => .error .malformed
  match magnitude with
  | .error error => .error error
  | .ok value =>
    if !negative && value ≥ half then .error (.range (half - 1))
    else if negative && value > half then .error (.range (-(half : Int)))
    else .ok (if negative then -(value : Int) else value)

/-- Reads a truth value: `1`, `t`, `T`, `TRUE`, `true`, `True` or their
opposites `0`, `f`, `F`, `FALSE`, `false`, `False`. -/
def parseBool? (text : String) : Option Bool :=
  if ["1", "t", "T", "TRUE", "true", "True"].contains text then some true
  else if ["0", "f", "F", "FALSE", "false", "False"].contains text then some false
  else none

end HeapKit.IntegerText
