import HeapKit.Container.Bounds
import HeapKit.Hash.Djb2

/-!
# Views of byte strings

A string view is a read-only run of bytes. Taking a part checks its bounds
against the length; `substr` first shortens the requested size to what the
view holds, so only a bad start fails it. Searching gives the byte position of
the first occurrence, or -1.
-/

namespace HeapKit

/-- A read-only view of bytes. -/
structure StringRef where
  bytes : List UInt8
  deriving DecidableEq, Repr, Inhabited

namespace StringRef

/-- The number of bytes. -/
def length (view : StringRef) : Nat := view.bytes.length

/-- The byte at `position`. -/
def byteAt (view : StringRef) (position : Int64) : Except BoundsError UInt8 := do
  let index ← Bounds.index position.toInt view.length
  .ok view.bytes[index]!

/-- At most `size` bytes from `start` on; the end is cut back to the length. -/
def substr (view : StringRef) (start size : Int64) : Except BoundsError StringRef := do
  let finish := min (start + size).toInt view.length
  Bounds.fixedPart start.toInt finish view.length
  .ok ⟨(view.bytes.take finish.toNat).drop start.toInt.toNat⟩

/-- Without the first `count` bytes. -/
def dropPrefix (view : StringRef) (count : Int64) : Except BoundsError StringRef := do
  Bounds.fixedPart count.toInt view.length view.length
  .ok ⟨view.bytes.drop count.toInt.toNat⟩

/-- Without the last `count` bytes. The length kept is computed in machine
words, so a count far below zero wraps around to a negative length. -/
def dropSuffix (view : StringRef) (count : Int64) : Except BoundsError StringRef := do
  let keep := (Int64.ofNat view.length - count).toInt
  Bounds.fixedPart 0 keep view.length
  .ok ⟨view.bytes.take keep.toNat⟩

/-- Whether the view begins with `prefix`. -/
def startsWith (view : StringRef) (beginning : StringRef) : Bool :=
  beginning.bytes.isPrefixOf view.bytes

/-- Whether the view ends with `suffix`. -/
def endsWith (view : StringRef) (ending : StringRef) : Bool :=
  ending.bytes.reverse.isPrefixOf view.bytes.reverse

/-- The first position from `offset` on where `pattern` occurs. -/
def findFrom (pattern : List UInt8) : Nat → List UInt8 → Option Nat
  | offset, [] => if pattern.isEmpty then some offset else none
  | offset, byte :: rest =>
    if pattern.isPrefixOf (byte :: rest) then some offset else findFrom pattern (offset + 1) rest

/-- The byte position of the first occurrence of `pattern`, or -1. -/
def find (view : StringRef) (pattern : StringRef) : Int :=
  match findFrom pattern.bytes 0 view.bytes with
  | some position => position
  | none => -1

/-- The djb2 hash of the bytes. -/
def hash (view : StringRef) : UInt64 := Hash.djb2 view.bytes

end StringRef

end HeapKit
