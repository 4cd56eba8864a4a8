import HeapKit.Text.Quoted
import HeapKit.Text.Utf8

/-!
# Byte sizes written as text

A byte size is written as decimal digits and an optional unit, with white space
allowed around the unit. Units are binary multiples named in any case:
`k`, `kb`, `kilo`, `kilobyte`, `kilobytes` for 1024 bytes, and likewise with
`m`/`mega`, `g`/`giga`, `t`/`tera` and `p`/`peta` for the next powers of 1024;
the largest unit, 1024 to the sixth, is only `e` or `eb`; `b`, `byte` or nothing
stand for bytes. A capital prefix before a small `b` (`Kb`, `Mb`, ...) names
bits, not bytes, and is refused.

The text is read as bytes: the digits are ASCII, and bytes that are not UTF-8
never make a unit.

A size must fit in 64 bits, digits and unit together. A reading that fails
leaves a value behind: zero for bad text, the largest size for one too large.
-/

namespace HeapKit.ByteSize

/-- The largest size. -/
def maxSize : Nat := Nat.pow 2 64 - 1

/-- Why a text is not a byte size. -/
inductive SizeError where
  /-- Not digits and a known unit. -/
  | malformed
  /-- Larger than the largest size. -/
  | overflow
  /-- A unit of bits. -/
  | bits
  deriving DecidableEq, Repr, Inhabited

namespace SizeError

/-- The reason, as messages give it. -/
def reason : SizeError → String
  | .malformed => "invalid syntax"
  | .overflow => "value out of range"
  | .bits => "unit with capital unit prefix and lower case unit (b) - bits, not bytes "

/-- The size a failed reading leaves behind. -/
def leftValue : SizeError → Nat
  | .overflow => maxSize
  | _ => 0

end SizeError

/-- The full message for a text that failed to read. -/
def failureMessage (text : List UInt8) (error : SizeError) : String :=
  "strconv.UnmarshalText: parsing " ++ Quoted.quoteBytes text ++ ": " ++ error.reason

/-- White space in the sense of the Unicode White_Space property. -/
def isSpace (c : Char) : Bool :=
  let code := c.toNat
  (9 ≤ code && code ≤ 13) || code == 32 || code == 0x85 || code == 0xA0 || code == 0x1680 ||
    (0x2000 ≤ code && code ≤ 0x200A) || code == 0x2028 || code == 0x2029 || code == 0x202F ||
    code == 0x205F || code == 0x3000

/-- The text without white space at either end. -/
def trimSpace (text : String) : String :=
  String.ofList ((text.toList.dropWhile isSpace).reverse.dropWhile isSpace).reverse

/-- The small letter of a character where that letter is plain ASCII: ASCII
capitals, the capital I with dot above and the Kelvin sign. Other characters
stay as they are, which is enough to compare with ASCII unit names. -/
def lowerToAscii (c : Char) : Char :=
  if c.toNat == 0x130 then 'i'
  else if c.toNat == 0x212A then 'k'
  else c.toLower

/-- The multiple of bytes a unit stands for, the unit given in small letters. -/
def unitScale? (unit : String) : Option Nat :=
  let prefixes : List (List String × Nat) :=
    [(["", "b", "byte"], 1),
     (["k", "kb", "kilo", "kilobyte", "kilobytes"], 1024),
     (["m", "mb", "mega", "megabyte", "megabytes"], Nat.pow 1024 2),
     (["g", "gb", "giga", "gigabyte", "gigabytes"], Nat.pow 1024 3),
     (["t", "tb", "tera", "terabyte", "terabytes"], Nat.pow 1024 4),
     (["p", "pb", "peta", "petabyte", "petabytes"], Nat.pow 1024 5),
     (["e", "eb"], Nat.pow 1024 6)]
  (prefixes.find? (fun (names, _) => names.contains unit)).map Prod.snd

/-- Whether a byte is an ASCII digit. -/
def isDigitByte (byte : UInt8) : Bool := 0x30 ≤ byte && byte ≤ 0x39

/-- Reads the leading digits; a value above the largest size stops the reading
at once. -/
def leadingDigits : List UInt8 → Nat → Except SizeError (Nat × List UInt8)
  | [], value => .ok (value, [])
  | byte :: rest, value =>
    if isDigitByte byte then
      let value := value * 10 + (byte.toNat - 0x30)
      if value > maxSize then .error .overflow else leadingDigits rest value
    else .ok (value, byte :: rest)

/-- Reads a byte size. -/
def parse (text : List UInt8) : Except SizeError Nat := do
  if let byte :: _ := text then
    if !isDigitByte byte then throw .malformed
  let (count, rest) ← leadingDigits text 0
  let unit := trimSpace (String.ofList (Utf8.decodeLossy rest))
  if ["Kb", "Mb", "Gb", "Tb", "Pb", "Eb"].contains unit then throw .bits
  match unitScale? (String.ofList (unit.toList.map lowerToAscii)) with
  | none => throw .malformed
  | some scale =>
    if count > maxSize / scale then throw .overflow
    pure (count * scale)

end HeapKit.ByteSize
