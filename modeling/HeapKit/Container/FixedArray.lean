import HeapKit.Container.Storage
import HeapKit.Container.Inline

/-!
# Fixed arrays

A fixed array has a size set when it is made, changed only by reinitializing
it. Up to the inline count its elements live in a four-place inline block;
beyond that they live in outside storage of exactly the size. Reading the
elements checks the size against the place that holds them, so a negative size
fails every read.
-/

namespace HeapKit

/-- The places of the inline block, whatever the element size. -/
def inlinePlaces : Nat := 4

/-- A fixed-size sequence of `α`, with `default` as the zero value. -/
structure FixedArray (α : Type) where
  elementSize : Nat
  accounted : Bool
  /-- The inline block. -/
  inline : Array α
  /-- Outside storage: its address and its elements. -/
  heap : Option (Nat × Array α)
  /-- The size, a signed word. -/
  size : Int
  deriving Repr

namespace FixedArray

variable {α σ : Type} [Inhabited α]

/-- An array of size zero. -/
def blank (elementSize : Nat) (accounted : Bool) : FixedArray α :=
  ⟨elementSize, accounted, Array.replicate inlinePlaces default, none, 0⟩

/-- The inline element count of this element size. -/
def inlineCount (array : FixedArray α) : Nat := inlineCapacity array.elementSize

/-- Whether the elements are inline. -/
def isInline (array : FixedArray α) : Bool := array.heap.isNone

/-- The elements. -/
def items (array : FixedArray α) : Except BoundsError (List α) :=
  match array.heap with
  | some (_, elements) => do
    Bounds.part 0 array.size elements.size
    .ok (elements.toList.take array.size.toNat)
  | none => do
    Bounds.fixedPart 0 array.size array.inline.size
    .ok (array.inline.toList.take array.size.toNat)

/-- The element at `position`. -/
def get (array : FixedArray α) (position : Int) : Except BoundsError α := do
  let items ← array.items
  let index ← Bounds.index position items.length
  .ok items[index]!

/-- Replaces the elements from the start with `values`, as far as the size reaches. -/
def overwrite (array : FixedArray α) (values : List α) : FixedArray α :=
  let place (storage : Array α) (entry : Nat × α) : Array α :=
    if entry.1 < storage.size then storage.set! entry.1 entry.2 else storage
  let entries := (List.range values.length).zip values
  match array.heap with
  | some (address, elements) => { array with heap := some (address, entries.foldl place elements) }
  | none => { array with inline := entries.foldl place array.inline }

/-- The element at `position` replaced by `value`. -/
def set (array : FixedArray α) (position : Int) (value : α) : Except BoundsError (FixedArray α) := do
  let items ← array.items
  let index ← Bounds.index position items.length
  .ok (array.overwrite (items.set index value))

/-- The first element. -/
def first (array : FixedArray α) : Except BoundsError α := array.get 0

/-- The last element. -/
def last (array : FixedArray α) : Except BoundsError α := array.get (array.size - 1)

/-- Sets the size; outside storage is taken when it exceeds the inline count. -/
def init (provider : Provider σ) (size : Int) : Mutation σ (FixedArray α) Unit := do
  Mutation.modifyContainer fun array => { array with size }
  let array ← Mutation.container
  if size > array.inlineCount then
    let address ← Mutation.obtain provider array.accounted size.toNat array.elementSize
    Mutation.modifyContainer fun array =>
      { array with heap := some (address, Array.replicate size.toNat default) }

/-- Returns outside storage and leaves an array of size zero. -/
def release (provider : Provider σ) : Mutation σ (FixedArray α) Unit := do
  let array ← Mutation.container
  match array.heap with
  | some (address, _) => Mutation.giveBack provider array.accounted address
  | none => pure ()
  Mutation.setContainer (blank array.elementSize array.accounted)

/-- Sets every element to `value`. -/
def fill (value : α) : Mutation σ (FixedArray α) Unit := do
  let array ← Mutation.container
  let items ← Mutation.check array.items
  Mutation.setContainer (array.overwrite (List.replicate items.length value))

/-- Zero values of size `size`; the same size only clears the elements. -/
def reinitialize (provider : Provider σ) (size : Int) : Mutation σ (FixedArray α) Unit := do
  let array ← Mutation.container
  if size == array.size then fill default
  else
    release provider
    init provider size

/-- A copy drawing from the same provider. Its storage is taken before the
elements are read. -/
def copy (provider : Provider σ) : Mutation σ (FixedArray α) (FixedArray α) := do
  let array ← Mutation.container
  Mutation.focus (fun kept => ((blank array.elementSize array.accounted : FixedArray α), fun _ => kept))
    (do
      init provider array.size
      let fresh ← Mutation.container
      let _ ← Mutation.check fresh.items
      let items ← Mutation.check array.items
      Mutation.setContainer (fresh.overwrite items)
      Mutation.container)

end FixedArray

end HeapKit
