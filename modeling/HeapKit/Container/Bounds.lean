/-!
# Bound checks

Reading or writing at an index, taking a part of a sequence and creating
storage all check their bounds first, and a failed check aborts the operation
with a message that names the offending numbers.

A part `s[low:high]` is checked high bound first, against the capacity of a
sequence with spare room or the length of a fixed one, then the low bound
against the high one. A part with an explicit capacity `s[low:high:max]` is
checked from the right: `max`, then `high ≤ max`, then `low ≤ high`. A negative
number fails every check, and its message leaves out the number it was
compared with.
-/

namespace HeapKit

/-- A failed bound check. -/
inductive BoundsError where
  /-- An index outside `[0, length)`. -/
  | index (position : Int) (length : Nat)
  /-- The high bound of `s[:high]` above the length of a fixed sequence. -/
  | highAboveLength (high : Int) (length : Nat)
  /-- The high bound of `s[:high]` above the capacity of a sequence. -/
  | highAboveCapacity (high : Int) (capacity : Nat)
  /-- The low bound of `s[low:high]` above the high bound. -/
  | lowAboveHigh (low high : Int)
  /-- The capacity bound of `s[::max]` above the capacity. -/
  | maxAboveCapacity (max : Int) (capacity : Nat)
  /-- The high bound of `s[:high:max]` above the capacity bound. -/
  | highAboveMax (high max : Int)
  /-- The low bound of `s[low:high:]` above the high bound. -/
  | lowAboveHighWithMax (low high : Int)
  /-- Storage of a negative or unrepresentable length. -/
  | storageLength
  deriving DecidableEq, Repr, Inhabited

namespace BoundsError

/-- The message of a failed check. -/
def message : BoundsError → String
  | .index position length =>
    if position < 0 then s!"runtime error: index out of range [{position}]"
    else s!"runtime error: index out of range [{position}] with length {length}"
  | .highAboveLength high length =>
    if high < 0 then s!"runtime error: slice bounds out of range [:{high}]"
    else s!"runtime error: slice bounds out of range [:{high}] with length {length}"
  | .highAboveCapacity high capacity =>
    if high < 0 then s!"runtime error: slice bounds out of range [:{high}]"
    else s!"runtime error: slice bounds out of range [:{high}] with capacity {capacity}"
  | .lowAboveHigh low high =>
    if low < 0 then s!"runtime error: slice bounds out of range [{low}:]"
    else s!"runtime error: slice bounds out of range [{low}:{high}]"
  | .maxAboveCapacity max capacity =>
    if max < 0 then s!"runtime error: slice bounds out of range [::{max}]"
    else s!"runtime error: slice bounds out of range [::{max}] with capacity {capacity}"
  | .highAboveMax high max =>
    if high < 0 then s!"runtime error: slice bounds out of range [:{high}:]"
    else s!"runtime error: slice bounds out of range [:{high}:{max}]"
  | .lowAboveHighWithMax low high =>
    if low < 0 then s!"runtime error: slice bounds out of range [{low}::]"
    else s!"runtime error: slice bounds out of range [{low}:{high}:]"
  | .storageLength => "runtime error: makeslice: len out of range"

end BoundsError

namespace Bounds

/-- Whether `value` lies in `[0, limit]`. -/
def within (value : Int) (limit : Nat) : Bool := 0 ≤ value && value ≤ limit

/-- Checks an index into a sequence of `length` elements and gives it as a natural. -/
def index (position : Int) (length : Nat) : Except BoundsError Nat :=
  if 0 ≤ position && position < length then .ok position.toNat
  else .error (.index position length)

/-- Checks `s[low:high]` on a sequence of `capacity` elements with spare room. -/
def part (low high : Int) (capacity : Nat) : Except BoundsError Unit :=
  if !within high capacity then .error (.highAboveCapacity high capacity)
  else if !(0 ≤ low && low ≤ high) then .error (.lowAboveHigh low high)
  else .ok ()

/-- Checks `s[low:high]` on a fixed sequence of `length` elements. -/
def fixedPart (low high : Int) (length : Nat) : Except BoundsError Unit :=
  if !within high length then .error (.highAboveLength high length)
  else if !(0 ≤ low && low ≤ high) then .error (.lowAboveHigh low high)
  else .ok ()

/-- Checks `s[low:high:max]` on a sequence of `capacity` elements. -/
def cappedPart (low high max : Int) (capacity : Nat) : Except BoundsError Unit :=
  if !within max capacity then .error (.maxAboveCapacity max capacity)
  else if !(0 ≤ high && high ≤ max) then .error (.highAboveMax high max)
  else if !(0 ≤ low && low ≤ high) then .error (.lowAboveHighWithMax low high)
  else .ok ()

/-- The largest storage in bytes that can be created at all. -/
def storageLimit : Nat := Nat.pow 2 48

/-- Checks that storage of `count` elements of `size` bytes can be created. -/
def storage (count : Int) (size : Nat) : Except BoundsError Unit :=
  if count < 0 || count.toNat * size > storageLimit then .error .storageLength else .ok ()

end Bounds

end HeapKit
