import HeapKit.Float.Shortest

/-!
# Text of floating-point values

Float keys are written in the general layout with the shortest digits: the
digits are written positionally when the decimal exponent `x` of the leading
digit satisfies `-4 ≤ x < 6`, and otherwise as one digit, a point and the rest,
then `e`, a sign and at least two exponent digits. Zeros are `0` and `-0`;
infinities `+Inf` and `-Inf`; a NaN is `NaN`.

Numbers inside documents follow a different rule: a value with no fractional
digits below 10^21 is written as a plain integer, everything else as a
decimal with an exponent.
-/

namespace HeapKit.FloatText

/-- How the general layout chooses between positional and exponent form. -/
structure GeneralLayout where
  /-- The smallest leading-digit exponent written positionally. -/
  lowestPositional : Int
  /-- The first leading-digit exponent written with an exponent. -/
  firstExponential : Int
  /-- The least number of exponent digits. -/
  exponentWidth : Nat

/-- Float keys: positional from 10^-4 up to below 10^6, two exponent digits at least. -/
def keyLayout : GeneralLayout := ⟨-4, 6, 2⟩

/-- `count` zero characters. -/
def zeros (count : Nat) : String := String.ofList (List.replicate count '0')

/-- The digits `digits × 10 ^ exponent` in the general layout, without sign. -/
def general (layout : GeneralLayout) (digits : Nat) (exponent : Int) : String :=
  let text := (Nat.toDigits 10 digits)
  let count := text.length
  let point : Int := count + exponent
  let leading := point - 1
  if leading < layout.lowestPositional || leading ≥ layout.firstExponential then
    let mantissa := match text with
      | first :: rest => if rest.isEmpty then first.toString else first.toString ++ "." ++ String.ofList rest
      | [] => "0"
    let exponentDigits := toString leading.natAbs
    let padded := zeros (layout.exponentWidth - exponentDigits.length) ++ exponentDigits
    mantissa ++ "e" ++ (if leading < 0 then "-" else "+") ++ padded
  else if point ≤ 0 then
    "0." ++ zeros point.natAbs ++ String.ofList text
  else if point ≥ count then
    String.ofList text ++ zeros (point.toNat - count)
  else
    String.ofList (text.take point.toNat) ++ "." ++ String.ofList (text.drop point.toNat)

/-- The shortest text of a bit pattern in a format, in the general layout. -/
def formatBits (format : BinaryFormat) (bits : Nat) : String :=
  let negative := format.signBit bits
  let sign := if negative then "-" else ""
  let magnitudeBits := bits % format.signWeight
  match format.decode? magnitudeBits with
  | none =>
    if format.fraction bits != 0 then "NaN" else if negative then "-Inf" else "+Inf"
  | some finite =>
    if finite.significand == 0 then sign ++ "0"
    else
      let (digits, exponent) := Shortest.digits (Shortest.ofFinite format finite magnitudeBits)
      sign ++ general keyLayout digits exponent

/-- The key text of a binary64 value. -/
def ofBinary64 (value : Binary64) : String := formatBits BinaryFormat.double value.bits.toNat

/-- The key text of a binary32 value. -/
def ofBinary32 (value : Binary32) : String := formatBits BinaryFormat.single value.bits.toNat

/-- A finite binary64 value as a document number: a plain integer when it has no
fractional digits and is below 10^21, otherwise a decimal with an exponent. -/
def numeral (value : Binary64) : Numeral :=
  let bits := value.bits.toNat
  let negative := BinaryFormat.double.signBit bits
  let magnitudeBits := bits % BinaryFormat.double.signWeight
  match BinaryFormat.double.decode? magnitudeBits with
  | none => Numeral.ofInt 0
  | some finite =>
    if finite.significand == 0 then Numeral.ofInt 0
    else
      let (digits, exponent) :=
        Shortest.digits (Shortest.ofFinite BinaryFormat.double finite magnitudeBits)
      let signed : Int := if negative then -(digits : Int) else digits
      let belowLimit := (Nat.toDigits 10 digits).length + exponent ≤ 21
      { mantissa := signed, exponent, integer := 0 ≤ exponent && belowLimit }

end HeapKit.FloatText
