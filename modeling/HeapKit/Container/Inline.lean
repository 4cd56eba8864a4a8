/-!
# Inline storage

Vectors and fixed arrays keep their first elements inside the container value
and move to separately allocated storage only beyond that. The inline count is
four elements when an element is smaller than 100 bytes, and none otherwise.
-/

namespace HeapKit

/-- The number of elements of `elementSize` bytes kept inside a container. -/
def inlineCapacity (elementSize : Nat) : Nat := if elementSize < 100 then 4 else 0

end HeapKit
