/-!
# Index ranges

An index range is the run of consecutive integers `[start, start + size)`.
Start and size are 64-bit words and every sum wraps around, so a range built
from extreme ends can have a negative size or an end below its start; such a
range yields no indices but still reports its words.

Trimming operations clamp their count to `[0, size]`; `slice` takes the
requested part without checking it.
-/

namespace HeapKit

/-- The integers `[start, start + size)`. -/
structure IndexRange where
  start : Int64
  size : Int64
  deriving DecidableEq, Repr, Inhabited

namespace IndexRange

/-- `[0, size)`. -/
def upTo (size : Int64) : IndexRange := ⟨0, size⟩

/-- `[begin, finish)`. -/
def between (begin finish : Int64) : IndexRange := ⟨begin, finish - begin⟩

/-- Whether the range has size zero. -/
def isEmpty (range : IndexRange) : Bool := range.size == 0

/-- The first index. -/
def first (range : IndexRange) : Int64 := range.start

/-- The end of the range, one past its last index. -/
def oneAfterLast (range : IndexRange) : Int64 := range.start + range.size

/-- The last index. -/
def last (range : IndexRange) : Int64 := range.start + range.size - 1

/-- The index at position `position`. -/
def get (range : IndexRange) (position : Int64) : Int64 := range.start + position

/-- Whether `value` is one of the indices. -/
def contains (range : IndexRange) (value : Int64) : Bool :=
  value ≥ range.start && value < range.oneAfterLast

/-- Whether both ranges yield the same indices. -/
def sameIndices (range other : IndexRange) : Bool :=
  range.size == other.size && (range.start == other.start || range.size == 0)

/-- The range moved by `offset`. -/
def shift (range : IndexRange) (offset : Int64) : IndexRange := ⟨range.start + offset, range.size⟩

/-- `size` indices from position `start` on. -/
def slice (range : IndexRange) (start size : Int64) : IndexRange := ⟨range.start + start, size⟩

/-- A count clamped to `[0, size]`. -/
def clamp (range : IndexRange) (count : Int64) : Int64 := min (max count 0) range.size

/-- Without its first `count` indices. -/
def dropFront (range : IndexRange) (count : Int64) : IndexRange :=
  let n := range.clamp count
  ⟨range.start + n, range.size - n⟩

/-- Without its last `count` indices. -/
def dropBack (range : IndexRange) (count : Int64) : IndexRange :=
  ⟨range.start, range.size - range.clamp count⟩

/-- Its first `count` indices. -/
def takeFront (range : IndexRange) (count : Int64) : IndexRange :=
  ⟨range.start, range.clamp count⟩

/-- Its last `count` indices. -/
def takeBack (range : IndexRange) (count : Int64) : IndexRange :=
  let n := range.clamp count
  ⟨range.start + range.size - n, n⟩

/-- The first `limit` indices, in order. -/
def indices (range : IndexRange) (limit : Nat) : List Int64 :=
  let count := min limit (range.oneAfterLast.toInt - range.start.toInt).toNat
  (List.range count).map fun offset : Nat => Int64.ofInt (range.start.toInt + (offset : Int))

/-- The text `[start, end)`. -/
def text (range : IndexRange) : String := s!"[{range.start}, {range.oneAfterLast})"

end IndexRange

end HeapKit
