/-!
# Load factors and table sizes

A load factor `numerator / denominator` bounds the share of slots that are
occupied or hold tombstones; it is valid when `0 < numerator < denominator`.
A table for at least `minUsable` entries has the smallest power of two of slots
that keeps that many within the load factor, and at least `minTotal` slots;
its usable count is `total * numerator / denominator`.

The arithmetic is that of 64-bit words: products wrap, quotients truncate, and
a power of two beyond the word is zero.
-/

namespace HeapKit

/-- The largest share of occupied and removed slots. -/
structure LoadFactor where
  numerator : Int64
  denominator : Int64
  deriving DecidableEq, Repr, Inhabited

namespace LoadFactor

/-- At least half of the slots stay empty. -/
def half : LoadFactor := ⟨1, 2⟩

/-- Whether `0 < numerator < denominator`. -/
def isValid (factor : LoadFactor) : Bool := 0 < factor.numerator && factor.numerator < factor.denominator

/-- The message of an invalid load factor. -/
def invalidMessage (factor : LoadFactor) : String :=
  s!"container: invalid load factor {factor.numerator}/{factor.denominator}"

/-- The number of bits needed to write a word, zero for zero. -/
def bitLength (value : UInt64) : Nat := Nat.log2 value.toNat + (if value == 0 then 0 else 1)

/-- The smallest power of two at least `value`, as a word; one for values up to one. -/
def powerOfTwoAbove (value : Int64) : Int64 :=
  if value ≤ 1 then 1
  else
    let bits := bitLength (value - 1).toUInt64
    if bits ≥ 64 then 0 else (1 : Int64) <<< bits.toInt64

/-- The total and usable slot counts of a table for `minUsable` entries. -/
def slots (factor : LoadFactor) (minTotal minUsable : Int64) : Int64 × Int64 :=
  let need := (minUsable * factor.denominator + factor.numerator - 1) / factor.numerator
  let total := max minTotal (powerOfTwoAbove need)
  (total, total * factor.numerator / factor.denominator)

end LoadFactor

end HeapKit
