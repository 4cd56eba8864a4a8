import HeapKit.Json.Value

/-!
# Binary floating-point values

IEEE 754 binary64 and binary32 values are kept as their bit patterns. A
`BinaryFormat` records the widths of the fraction and exponent fields; every
operation here is written once for a format and used for both widths.

A finite value decodes to an integer significand and a binary exponent. The
other direction, rounding an exact positive ratio to the nearest value of a
format, is what reading decimal text and narrowing binary64 to binary32 both
need: it ties to the even significand and overflows to infinity. All of it is
exact arithmetic on naturals.
-/

namespace HeapKit

/-- The widths of an interchange format's fields. -/
structure BinaryFormat where
  fractionBits : Nat
  exponentBits : Nat

namespace BinaryFormat

/-- binary64: 52 fraction bits, 11 exponent bits. -/
def double : BinaryFormat := ⟨52, 11⟩

/-- binary32: 23 fraction bits, 8 exponent bits. -/
def single : BinaryFormat := ⟨23, 8⟩

/-- The exponent bias. -/
def bias (format : BinaryFormat) : Nat := Nat.pow 2 (format.exponentBits - 1) - 1

/-- The all-ones exponent field of infinities and NaNs. -/
def topExponent (format : BinaryFormat) : Nat := Nat.pow 2 format.exponentBits - 1

/-- The weight of the hidden leading bit of a normal significand. -/
def hidden (format : BinaryFormat) : Nat := Nat.pow 2 format.fractionBits

/-- The fraction field of a bit pattern. -/
def fraction (format : BinaryFormat) (bits : Nat) : Nat := bits % format.hidden

/-- The biased exponent field of a bit pattern. -/
def biasedExponent (format : BinaryFormat) (bits : Nat) : Nat :=
  bits / format.hidden % Nat.pow 2 format.exponentBits

/-- The sign bit of a bit pattern. -/
def signBit (format : BinaryFormat) (bits : Nat) : Bool :=
  bits / Nat.pow 2 (format.fractionBits + format.exponentBits) % 2 == 1

/-- The bit pattern of positive infinity. -/
def infinityBits (format : BinaryFormat) : Nat := format.topExponent * format.hidden

/-- The weight of the sign bit. -/
def signWeight (format : BinaryFormat) : Nat := Nat.pow 2 (format.fractionBits + format.exponentBits)

/-- A finite nonzero magnitude as `significand × 2 ^ exponent`. -/
structure Finite where
  significand : Nat
  exponent : Int

/-- The magnitude of a finite bit pattern; `none` for infinities and NaNs. -/
def decode? (format : BinaryFormat) (bits : Nat) : Option Finite :=
  let biased := format.biasedExponent bits
  let fraction := format.fraction bits
  if biased == format.topExponent then none
  else if biased == 0 then
    some ⟨fraction, 1 - (format.bias : Int) - format.fractionBits⟩
  else
    some ⟨fraction + format.hidden, (biased : Int) - format.bias - format.fractionBits⟩

/-- `num × 2 ^ shift`, as a ratio of naturals when the shift is negative. -/
def scaleRatio (num den : Nat) (shift : Int) : Nat × Nat :=
  if 0 ≤ shift then (num * Nat.pow 2 shift.toNat, den) else (num, den * Nat.pow 2 (-shift).toNat)

/-- The largest `e` with `2 ^ e ≤ num / den`, for positive `num` and `den`. -/
def floorLog2 (num den : Nat) : Int :=
  let guess : Int := (Nat.log2 num : Int) - Nat.log2 den
  let (scaledNum, scaledDen) := scaleRatio den 1 guess
  -- `num / den` lies in `(2 ^ (guess - 1), 2 ^ (guess + 1))`
  if num * scaledDen < scaledNum then guess - 1 else guess

/-- The bit pattern nearest to the positive ratio `num / den`, ties to an even
significand, magnitudes beyond the largest finite value to infinity. -/
def roundRatio (format : BinaryFormat) (num den : Nat) : Nat :=
  if num = 0 || den = 0 then 0 else
  let precision := format.fractionBits + 1
  let minExponent : Int := 1 - (format.bias : Int)
  let exponent := max (floorLog2 num den) minExponent
  let (scaledNum, scaledDen) := scaleRatio num den ((precision : Int) - 1 - exponent)
  let quotient := scaledNum / scaledDen
  let remainder := scaledNum % scaledDen
  let rounded :=
    if 2 * remainder > scaledDen || (2 * remainder == scaledDen && quotient % 2 == 1) then
      quotient + 1
    else quotient
  let (significand, exponent) :=
    if rounded == 2 * format.hidden then (format.hidden, exponent + 1) else (rounded, exponent)
  if exponent > (format.bias : Int) then format.infinityBits
  else if significand < format.hidden then significand
  else (exponent + format.bias).toNat * format.hidden + (significand - format.hidden)

end BinaryFormat

/-- A binary64 value, by its bit pattern. -/
structure Binary64 where
  bits : UInt64
  deriving DecidableEq, Repr, Inhabited

/-- A binary32 value, by its bit pattern. -/
structure Binary32 where
  bits : UInt32
  deriving DecidableEq, Repr, Inhabited

namespace Binary64

/-- The quiet NaN that the library's inputs name `NaN`: bits 0x7FF8000000000001. -/
def nan : Binary64 := ⟨0x7FF8000000000001⟩
/-- Positive infinity. -/
def infinity : Binary64 := ⟨0x7FF0000000000000⟩
/-- Negative infinity. -/
def negativeInfinity : Binary64 := ⟨0xFFF0000000000000⟩
/-- Negative zero. -/
def negativeZero : Binary64 := ⟨0x8000000000000000⟩

/-- Whether the value is a NaN. -/
def isNaN (value : Binary64) : Bool :=
  BinaryFormat.double.biasedExponent value.bits.toNat == BinaryFormat.double.topExponent
    && BinaryFormat.double.fraction value.bits.toNat != 0

/-- Whether the value is a zero of either sign. -/
def isZero (value : Binary64) : Bool := value.bits &&& 0x7FFFFFFFFFFFFFFF == 0

/-- Whether the value is an infinity of either sign. -/
def isInfinite (value : Binary64) : Bool := value.bits &&& 0x7FFFFFFFFFFFFFFF == 0x7FF0000000000000

/-- Whether the sign bit is set. -/
def isNegative (value : Binary64) : Bool := value.bits >>> 63 == 1

/-- Numeric equality: NaN equals nothing, and the two zeros are equal. -/
def equal (a b : Binary64) : Bool :=
  !a.isNaN && !b.isNaN && (a.bits == b.bits || (a.isZero && b.isZero))

/-- An integer that grows with the value on the number line: the bits of the
magnitude, negated for a negative value, so both zeros give 0. -/
def orderKey (value : Binary64) : Int :=
  let magnitude : Int := (value.bits &&& 0x7FFFFFFFFFFFFFFF).toNat
  if value.isNegative then -magnitude else magnitude

/-- Whether `a` comes before `b` in the total order that puts NaN below every
number, counts all NaNs equal and the two zeros equal. -/
def before (a b : Binary64) : Bool :=
  if a.isNaN then !b.isNaN
  else if b.isNaN then false
  else a.orderKey < b.orderKey

/-- The value with its sign set as given. -/
def withSign (negative : Bool) (magnitude : Nat) : Binary64 :=
  ⟨(magnitude + if negative then BinaryFormat.double.signWeight else 0).toUInt64⟩

/-- The value nearest to the ratio of two naturals; a zero denominator gives zero. -/
def ofRatio (num den : Nat) : Binary64 := withSign false (BinaryFormat.double.roundRatio num den)

/-- The value nearest to a natural number. -/
def ofNat (value : Nat) : Binary64 := ofRatio value 1

/-- The value nearest to an exact decimal numeral, negative zero for a zero
written with a minus sign. Magnitudes far beyond the range go straight to
infinity or zero without computing huge powers. -/
def ofNumeral (numeral : Numeral) : Binary64 :=
  let negative := numeral.isNegative
  let magnitude := numeral.mantissa.natAbs
  let digitCount : Int := (Nat.toDigits 10 magnitude).length
  if magnitude == 0 then withSign negative 0
  else if numeral.exponent + digitCount > 311 then withSign negative BinaryFormat.double.infinityBits
  else if numeral.exponent + digitCount < -330 then withSign negative 0
  else
    let (num, den) :=
      if 0 ≤ numeral.exponent then (magnitude * Nat.pow 10 numeral.exponent.toNat, 1)
      else (magnitude, Nat.pow 10 (-numeral.exponent).toNat)
    withSign negative (BinaryFormat.double.roundRatio num den)

/-- Narrowing to binary32, rounding to nearest with ties to even. A NaN keeps its
sign and the top of its payload and becomes quiet. -/
def toBinary32 (value : Binary64) : Binary32 :=
  let bits := value.bits.toNat
  let signPart : Nat := if value.isNegative then BinaryFormat.single.signWeight else 0
  if value.isNaN then
    ⟨(signPart + BinaryFormat.single.infinityBits + 0x400000
      + BinaryFormat.double.fraction bits / Nat.pow 2 29 % 0x400000).toUInt32⟩
  else
    match BinaryFormat.double.decode? bits with
    | none => ⟨(signPart + BinaryFormat.single.infinityBits).toUInt32⟩
    | some finite =>
      let (num, den) := BinaryFormat.scaleRatio finite.significand 1 finite.exponent
      ⟨(signPart + BinaryFormat.single.roundRatio num den).toUInt32⟩

end Binary64

namespace Binary32

/-- Whether the value is a NaN. -/
def isNaN (value : Binary32) : Bool :=
  BinaryFormat.single.biasedExponent value.bits.toNat == BinaryFormat.single.topExponent
    && BinaryFormat.single.fraction value.bits.toNat != 0

/-- Whether the value is a zero of either sign. -/
def isZero (value : Binary32) : Bool := value.bits &&& 0x7FFFFFFF == 0

/-- Numeric equality: NaN equals nothing, and the two zeros are equal. -/
def equal (a b : Binary32) : Bool :=
  !a.isNaN && !b.isNaN && (a.bits == b.bits || (a.isZero && b.isZero))

end Binary32

end HeapKit
