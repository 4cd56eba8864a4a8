import HeapKit.Float.Binary

/-!
# Shortest decimal digits

The shortest decimal text of a finite binary value is the decimal with the
fewest significant digits that rounds back to the same value; among those of
that length, the nearest to the value, and of two equally near the one with an
even last digit.

A value `m × 2 ^ q` rounds back from every point of its rounding interval: the
points nearer to it than to either neighbour, ends included exactly when `m` is
even (ties go to the even significand). The lower neighbour is half as far as
the upper one when `m` is the smallest normal significand of its binade.

For 1, 2, 3, … digits the search looks at the decimal grid of that many
significant digits around the value. If any point of a grid lies in the
interval then so does one of the value's two neighbours on the grid, because
the interval is convex and contains the value; so only those two are tested.
Every comparison is exact arithmetic on naturals.
-/

namespace HeapKit.Shortest

/-- A finite positive value `significand × 2 ^ exponent`, and whether its lower
neighbour is half as far as its upper one. -/
structure Point where
  significand : Nat
  exponent : Int
  narrowBelow : Bool

/-- Compares `left × 10 ^ decimalExponent` with `right × 2 ^ binaryExponent`. -/
def compareScaled (left : Nat) (decimalExponent : Int) (right : Nat) (binaryExponent : Int) :
    Ordering :=
  let leftScaled := left * Nat.pow 2 (-binaryExponent).toNat * Nat.pow 10 decimalExponent.toNat
  let rightScaled := right * Nat.pow 2 binaryExponent.toNat * Nat.pow 10 (-decimalExponent).toNat
  compare leftScaled rightScaled

/-- `⌊value / 10 ^ decimalExponent⌋` for `value = significand × 2 ^ exponent`. -/
def floorScaled (point : Point) (decimalExponent : Int) : Nat :=
  (point.significand * Nat.pow 2 point.exponent.toNat * Nat.pow 10 (-decimalExponent).toNat)
    / (Nat.pow 2 (-point.exponent).toNat * Nat.pow 10 decimalExponent.toNat)

/-- Adjusts a guess of `⌊log10 value⌋` by at most `fuel` steps in either direction. -/
def settleMagnitude (point : Point) : Nat → Int → Int
  | 0, guess => guess
  | fuel + 1, guess =>
    if compareScaled 1 guess point.significand point.exponent == .gt then
      settleMagnitude point fuel (guess - 1)
    else if compareScaled 1 (guess + 1) point.significand point.exponent != .gt then
      settleMagnitude point fuel (guess + 1)
    else guess

/-- `⌊log10 value⌋`: the guess from the bit length is off by at most one. -/
def magnitude (point : Point) : Int :=
  let log2 : Int := (Nat.log2 point.significand : Int) + point.exponent
  settleMagnitude point 4 (Int.fdiv (log2 * 78913) 262144)

/-- Whether `digits × 10 ^ decimalExponent` rounds back to the value. -/
def roundsBack (point : Point) (digits : Nat) (decimalExponent : Int) : Bool :=
  let quarter := point.exponent - 2
  let lower := 4 * point.significand - (if point.narrowBelow then 1 else 2)
  let upper := 4 * point.significand + 2
  let inclusive := point.significand % 2 == 0
  let aboveLower := compareScaled digits decimalExponent lower quarter
  let belowUpper := compareScaled digits decimalExponent upper quarter
  (aboveLower == .gt || (inclusive && aboveLower == .eq))
    && (belowUpper == .lt || (inclusive && belowUpper == .eq))

/-- The best candidate with `count` significant digits, if one rounds back. -/
def candidate (point : Point) (count : Nat) : Option (Nat × Int) :=
  let decimalExponent := magnitude point - count + 1
  let below := floorScaled point decimalExponent
  let belowFits := roundsBack point below decimalExponent
  let aboveFits := roundsBack point (below + 1) decimalExponent
  if belowFits && aboveFits then
    -- the nearer of the two; twice the value against their midpoint
    match compareScaled (2 * below + 1) decimalExponent (2 * point.significand) point.exponent with
    | .gt => some (below, decimalExponent)
    | .lt => some (below + 1, decimalExponent)
    | .eq => some (if below % 2 == 0 then below else below + 1, decimalExponent)
  else if belowFits then some (below, decimalExponent)
  else if aboveFits then some (below + 1, decimalExponent)
  else none

/-- Removes trailing zero digits, raising the exponent to match. -/
def trimZeros : Nat → Nat → Int → Nat × Int
  | 0, digits, exponent => (digits, exponent)
  | fuel + 1, digits, exponent =>
    if digits != 0 && digits % 10 == 0 then trimZeros fuel (digits / 10) (exponent + 1)
    else (digits, exponent)

/-- The shortest digits of the value and their decimal exponent: the value
rounds back from `digits × 10 ^ exponent`. Seventeen digits always suffice. -/
def digits (point : Point) : Nat × Int :=
  let found := (List.range 17).findSome? fun index => candidate point (index + 1)
  let (digits, exponent) := found.getD (floorScaled point (magnitude point - 16), magnitude point - 16)
  trimZeros 20 digits exponent

/-- The point of a finite nonzero magnitude in a format. -/
def ofFinite (format : BinaryFormat) (finite : BinaryFormat.Finite) (bits : Nat) : Point :=
  ⟨finite.significand, finite.exponent,
    finite.significand == format.hidden && format.biasedExponent bits > 1⟩

end HeapKit.Shortest
