import HeapKit.Container.Storage
import HeapKit.Container.Inline

/-!
# Vectors

A vector is a growable sequence. Its storage has a capacity: the inline count
until the vector first needs more, afterwards storage taken from outside that
at least doubles each time it grows. Elements past the length are kept in the
storage; removing an element leaves a zero value behind, so growing again
brings back zero values.

The length is a signed word. Removing the last element of an empty vector
first lowers the length and then fails its index check, and the negative length
stays: every later step that reads the elements fails its bound check, until a
resize or release sets the length again. Each operation makes its bound checks
in the order they are made on the storage, and a failed check aborts it with
whatever it already changed kept.
-/

namespace HeapKit

/-- A growable sequence of `α`, with `default` as the zero value. -/
structure Vector (α : Type) where
  /-- The bytes of one element, for storage requests. -/
  elementSize : Nat
  /-- Whether outside storage comes from the provider. -/
  accounted : Bool
  /-- The storage: the whole capacity. -/
  storage : Array α
  /-- The address of outside storage; `none` while the elements are inline. -/
  heap : Option Nat
  /-- The number of elements, a signed word. -/
  length : Int
  deriving Repr

namespace Vector

variable {α σ : Type} [Inhabited α]

/-- An empty vector with inline storage. -/
def empty (elementSize : Nat) (accounted : Bool) : Vector α :=
  ⟨elementSize, accounted, Array.replicate (inlineCapacity elementSize) default, none, 0⟩

/-- The number of elements that fit without growing. -/
def capacity (vector : Vector α) : Nat := vector.storage.size

/-- Whether the elements are inline. -/
def isInline (vector : Vector α) : Bool := vector.heap.isNone

/-- The elements. Fails when the length is negative. -/
def items (vector : Vector α) : Except BoundsError (List α) := do
  Bounds.part 0 vector.length vector.capacity
  .ok (vector.storage.toList.take vector.length.toNat)

/-- The element at `position`. -/
def get (vector : Vector α) (position : Int) : Except BoundsError α := do
  let items ← vector.items
  let index ← Bounds.index position items.length
  .ok items[index]!

/-- The element at `position` replaced by `value`. -/
def set (vector : Vector α) (position : Int) (value : α) : Except BoundsError (Vector α) := do
  let items ← vector.items
  let index ← Bounds.index position items.length
  .ok { vector with storage := vector.storage.set! index value }

/-- The first element. -/
def first (vector : Vector α) : Except BoundsError α := vector.get 0

/-- The last element. -/
def last (vector : Vector α) : Except BoundsError α := vector.get (vector.length - 1)

/-- Storage of `capacity` places holding `items` first and zero values after. -/
def fresh (items : List α) (capacity : Nat) : Array α :=
  (items ++ List.replicate (capacity - items.length) default).toArray

/-- Moves the elements into outside storage for at least `minCapacity` elements,
doubling the capacity at least. The new storage is obtained before the elements
are read, so a negative length aborts with the new storage already taken. -/
def grow (provider : Provider σ) (minCapacity : Int) : Mutation σ (Vector α) Unit := do
  let vector ← Mutation.container
  let newCapacity := max minCapacity (2 * vector.capacity)
  let address ← Mutation.obtain provider vector.accounted newCapacity.toNat vector.elementSize
  let items ← Mutation.check vector.items
  match vector.heap with
  | some old => Mutation.giveBack provider vector.accounted old
  | none => pure ()
  Mutation.modifyContainer fun vector =>
    { vector with storage := fresh items newCapacity.toNat, heap := some address }

/-- Makes room for `count` elements. -/
def reserve (provider : Provider σ) (count : Int) : Mutation σ (Vector α) Unit := do
  if count > (← Mutation.container).capacity then grow provider count

/-- Writes `value` at storage place `position`, after checking it. -/
def store (position : Int) (value : α) : Mutation σ (Vector α) Unit := do
  let index ← Mutation.check (Bounds.index position (← Mutation.container).capacity)
  Mutation.modifyContainer fun vector => { vector with storage := vector.storage.set! index value }

/-- The element at storage place `position`, after checking it. -/
def load (position : Int) : Mutation σ (Vector α) α := do
  let vector ← Mutation.container
  let index ← Mutation.check (Bounds.index position vector.capacity)
  pure vector.storage[index]!

/-- Sets the length. -/
def setLength (length : Int) : Mutation σ (Vector α) Unit :=
  Mutation.modifyContainer fun vector => { vector with length }

/-- Adds `value` at the end. -/
def push (provider : Provider σ) (value : α) : Mutation σ (Vector α) Unit := do
  let vector ← Mutation.container
  if vector.length == vector.capacity then grow provider (vector.length + 1)
  store (← Mutation.container).length value
  setLength ((← Mutation.container).length + 1)

/-- Copies `values` into the storage from place `start` on, as far as it reaches. -/
def copyInto (start : Nat) (values : List α) : Mutation σ (Vector α) Unit :=
  Mutation.modifyContainer fun vector =>
    let positions := (List.range values.length).map (start + ·)
    let place (storage : Array α) (entry : Nat × α) : Array α :=
      if entry.1 < storage.size then storage.set! entry.1 entry.2 else storage
    { vector with storage := (positions.zip values).foldl place vector.storage }

/-- Adds `values` at the end, in order. -/
def append (provider : Provider σ) (values : List α) : Mutation σ (Vector α) Unit := do
  reserve provider ((← Mutation.container).length + values.length)
  let vector ← Mutation.container
  Mutation.check (Bounds.part vector.length vector.capacity vector.capacity)
  copyInto vector.length.toNat values
  setLength (vector.length + values.length)

/-- Inserts `values` before position `position`; nothing happens for no values.
The position after the inserted values is computed in machine words, so a
position near the top of the range wraps around to a negative one. -/
def insert (provider : Provider σ) (position : Int) (values : List α) :
    Mutation σ (Vector α) Unit := do
  let count : Int := values.length
  if count == 0 then return
  reserve provider ((← Mutation.container).length + count)
  let vector ← Mutation.container
  let length := vector.length
  let shifted := (Int64.ofInt position + Int64.ofInt count).toInt
  Mutation.check (Bounds.part shifted (length + count) vector.capacity)
  Mutation.check (Bounds.part position length vector.capacity)
  let moved := (vector.storage.toList.drop position.toNat).take (length - position).toNat
  copyInto (position + count).toNat moved
  Mutation.check (Bounds.part position vector.capacity vector.capacity)
  copyInto position.toNat values
  setLength (length + count)

/-- Removes the element at `position`, keeping the order of the others. -/
def remove (position : Int) : Mutation σ (Vector α) Unit := do
  let vector ← Mutation.container
  let length := vector.length
  Mutation.check (Bounds.part position vector.capacity vector.capacity)
  Mutation.check (Bounds.part (position + 1) length vector.capacity)
  let moved := (vector.storage.toList.drop (position + 1).toNat).take (length - position - 1).toNat
  copyInto position.toNat moved
  setLength (length - 1)
  store (length - 1) default

/-- Removes the element at `position` by moving the last element into its place. -/
def removeSwap (position : Int) : Mutation σ (Vector α) Unit := do
  let length := (← Mutation.container).length - 1
  setLength length
  let lastValue ← load length
  store position lastValue
  store length default

/-- Removes and returns the last element. -/
def pop : Mutation σ (Vector α) α := do
  let length := (← Mutation.container).length - 1
  setLength length
  let value ← load length
  store length default
  pure value

/-- Sets the length to `count`; new places hold what the storage holds there. -/
def resize (provider : Provider σ) (count : Int) : Mutation σ (Vector α) Unit := do
  let vector ← Mutation.container
  if count > vector.length then reserve provider count
  else
    Mutation.check (Bounds.part count vector.length vector.capacity)
    copyInto count.toNat (List.replicate (vector.length - count).toNat default)
  setLength count

/-- Removes all elements and keeps the capacity. -/
def clear : Mutation σ (Vector α) Unit := do
  let items ← Mutation.check (← Mutation.container).items
  copyInto 0 (List.replicate items.length default)
  setLength 0

/-- Returns outside storage and leaves an empty inline vector. -/
def release (provider : Provider σ) : Mutation σ (Vector α) Unit := do
  let vector ← Mutation.container
  match vector.heap with
  | some address => Mutation.giveBack provider vector.accounted address
  | none => pure ()
  Mutation.setContainer (empty vector.elementSize vector.accounted)

/-- A vector of `count` zero values. -/
def ofSize (provider : Provider σ) (count : Int) : Mutation σ (Vector α) Unit := resize provider count

/-- Sets every element to `value`. -/
def fill (value : α) : Mutation σ (Vector α) Unit := do
  let items ← Mutation.check (← Mutation.container).items
  copyInto 0 (List.replicate items.length value)

/-- A copy drawing from the same provider. -/
def copy (provider : Provider σ) : Mutation σ (Vector α) (Vector α) := do
  let vector ← Mutation.container
  let items ← Mutation.check vector.items
  Mutation.focus (fun kept => ((empty vector.elementSize vector.accounted : Vector α), fun _ => kept))
    (do append provider items; Mutation.container)

/-- The position of the first element equal to `value`, or -1. -/
def indexOf [BEq α] (vector : Vector α) (value : α) : Except BoundsError Int := do
  let items ← vector.items
  .ok (match items.idxOf? value with
    | some position => position
    | none => -1)

/-- Whether two vectors have the same length and equal elements. -/
def equal [BEq α] (vector other : Vector α) : Except BoundsError Bool := do
  if vector.length != other.length then return false
  let theirs ← other.items
  let ours ← vector.items
  .ok (ours == theirs)

/-- Adds `value` at the end unless an equal element is present. -/
def pushNew [BEq α] (provider : Provider σ) (value : α) : Mutation σ (Vector α) Unit := do
  let position ← Mutation.check ((← Mutation.container).indexOf value)
  if position < 0 then push provider value

end Vector

end HeapKit
