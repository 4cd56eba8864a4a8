import HeapKit.Container.Bounds
import HeapKit.Container.IndexRange

/-!
# Spans

A span is a read-only view of consecutive elements. Its capacity always equals
its length, so taking a part `[start, start + size)` checks the end against the
length before anything else. Trimming operations clamp their count and never
fail; reading an element checks its index.
-/

namespace HeapKit

/-- A read-only view of elements. -/
structure Span (α : Type) where
  items : List α
  deriving Repr

namespace Span

variable {α : Type}

/-- The number of elements. -/
def length (span : Span α) : Nat := span.items.length

/-- A count clamped to `[0, length]`. -/
def clamp (span : Span α) (count : Int64) : Nat :=
  if count.toInt ≤ 0 then 0 else min count.toInt.toNat span.length

/-- The element at `position`. -/
def get [Inhabited α] (span : Span α) (position : Int64) : Except BoundsError α := do
  let index ← Bounds.index position.toInt span.length
  .ok span.items[index]!

/-- The first element. -/
def first [Inhabited α] (span : Span α) : Except BoundsError α := span.get 0

/-- The last element. -/
def last [Inhabited α] (span : Span α) : Except BoundsError α :=
  span.get (Int64.ofInt (span.length - 1 : Int))

/-- The `size` elements from `start` on. The end `start + size` is a 64-bit sum. -/
def slice (span : Span α) (start size : Int64) : Except BoundsError (Span α) := do
  let finish := (start + size).toInt
  Bounds.cappedPart start.toInt finish finish span.length
  .ok ⟨(span.items.drop start.toInt.toNat).take size.toInt.toNat⟩

/-- The elements of the positions in `range`. -/
def sliceRange (span : Span α) (range : IndexRange) : Except BoundsError (Span α) :=
  span.slice range.start range.size

/-- Without the first `count` elements. -/
def dropFront (span : Span α) (count : Int64) : Span α := ⟨span.items.drop (span.clamp count)⟩

/-- Without the last `count` elements. -/
def dropBack (span : Span α) (count : Int64) : Span α :=
  ⟨span.items.take (span.length - span.clamp count)⟩

/-- The first `count` elements. -/
def takeFront (span : Span α) (count : Int64) : Span α := ⟨span.items.take (span.clamp count)⟩

/-- The last `count` elements. -/
def takeBack (span : Span α) (count : Int64) : Span α :=
  ⟨span.items.drop (span.length - span.clamp count)⟩

/-- The range of valid positions. -/
def positions (span : Span α) : IndexRange := IndexRange.upTo (Int64.ofNat span.length)

/-- Whether an element equals `value`. -/
def contains [BEq α] (span : Span α) (value : α) : Bool := span.items.contains value

/-- Whether two spans have the same length and equal elements. -/
def equal [BEq α] (span other : Span α) : Bool := span.items == other.items

theorem takeFront_append_dropFront (span : Span α) (count : Int64) :
    (span.takeFront count).items ++ (span.dropFront count).items = span.items :=
  List.take_append_drop _ _

theorem dropBack_append_takeBack (span : Span α) (count : Int64) :
    (span.dropBack count).items ++ (span.takeBack count).items = span.items :=
  List.take_append_drop _ _

end Span

end HeapKit
