import HeapKit.Memory.Free

/-!
# Typed blocks

Values and arrays of a type live in frames. Constructing a value writes it into
a fresh frame; a new array is zeroed, and an array of no elements has no frame
at all. Destroying a value runs its finalizer while its block is still live,
frees the block, and on success clears the value; destroying an array does the
same for every element. Freeing through the typed API a block that was made by
the byte API is a kind mismatch.

A type with a finalizer here is one whose values are 64-bit identifiers: the
finalizer records the identifier it finds in memory.
-/

namespace HeapKit.Memory

namespace Allocator

/-- Runs the finalizer of the value at an address: records its identifier. -/
def finalize (address : Nat) : AllocM Unit := do
  let bytes ← readBytes address 8
  let word := Endian.readLE 8 bytes
  let identifier : Int := if word < Nat.pow 2 63 then word else (word : Int) - Int.pow 2 64
  modify fun allocator =>
    { allocator with journal := { allocator.journal with
        finalized := allocator.journal.finalized.push identifier } }

/-- A frame holding one value, given by its bytes. -/
def construct (element : ElementType) (value : List UInt8) (tag : String) :
    AllocM (Except MemError Block) := do
  match ← allocateFrame element 1 tag with
  | .error error => return .error error
  | .ok block =>
    writeBytes (block.address.getD 0) value
    return .ok block

/-- A zeroed array of `count` elements; no elements give the nil block. -/
def newArray (element : ElementType) (count : Int) (tag : String) :
    AllocM (Except MemError Block) :=
  if count == 0 then return .ok { address := none, length := 0 }
  else allocateFrame element count tag

/-- Destroys the value at an address: finalizes it while it is live, frees its
block, and clears it when the free succeeded. No address frees the nil block. -/
def destroy (element : ElementType) (address : Option Nat) : AllocM (Option MemError) := do
  match address with
  | none => free { address := none, length := 0 } .typed
  | some payload =>
    if element.finalized && (← isLive address) then finalize payload
    let outcome ← free { address, length := element.size } .typed
    if outcome.isNone then writeBytes payload (List.replicate element.size 0)
    return outcome

/-- Frees an array of `capacity` elements and clears it when the free
succeeded. An array without capacity is left alone. -/
def freeArray (element : ElementType) (address : Option Nat) (capacity : Nat) :
    AllocM (Option MemError) := do
  if capacity == 0 then return none
  let outcome ← free { address, length := capacity * element.size } .typed
  if outcome.isNone then
    writeBytes (address.getD 0) (List.replicate (capacity * element.size) 0)
  return outcome

/-- Finalizes every element of a live array, then frees it. -/
def destroyArray (element : ElementType) (address : Option Nat) (capacity : Nat) :
    AllocM (Option MemError) := do
  if 0 < capacity && element.finalized && (← isLive address) then
    for index in List.range capacity do
      finalize (address.getD 0 + index * element.size)
  freeArray element address capacity

end Allocator

end HeapKit.Memory
