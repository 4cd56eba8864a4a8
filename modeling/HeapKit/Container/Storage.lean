import HeapKit.Fault

/-!
# Container storage

Containers keep a few elements inline and take larger storage from outside.
That storage comes either from a provider that accounts for it, such as a block
allocator, or from plain unaccounted memory. A provider hands out storage for
a number of elements of a given size under an address, and takes it back by
that address.

Operations on containers run in `Mutation`: they may abort, and what they
changed before aborting stays changed, both in the container and in the
provider's state.
-/

namespace HeapKit

/-- A source of accounted storage with state `σ`. -/
structure Provider (σ : Type) where
  /-- Storage for `count` elements of `size` bytes, under a fresh address. A
  refusal may still change the provider's state. -/
  obtain : (count size : Nat) → σ → Except Fault Nat × σ
  /-- Takes back the storage at an address. -/
  giveBack : (address : Nat) → σ → σ

/-- An operation on a container `γ` whose storage comes from a provider with
state `σ`. -/
abbrev Mutation (σ γ : Type) := ExceptT Fault (StateM (γ × σ))

namespace Mutation

variable {σ γ : Type}

/-- The container. -/
def container : Mutation σ γ γ := do return (← get).1

/-- Replaces the container. -/
def setContainer (value : γ) : Mutation σ γ Unit := modify fun (_, storage) => (value, storage)

/-- Changes the container. -/
def modifyContainer (change : γ → γ) : Mutation σ γ Unit :=
  modify fun (value, storage) => (change value, storage)

/-- Aborts on a failed bound check. -/
def check {α : Type} (outcome : Except BoundsError α) : Mutation σ γ α :=
  match outcome with
  | .ok value => pure value
  | .error error => throw (.bounds error)

/-- Storage for `count` elements of `size` bytes. Accounted storage comes from the
provider; plain storage only has to be representable. The address of plain
storage is zero. -/
def obtain (provider : Provider σ) (accounted : Bool) (count size : Nat) : Mutation σ γ Nat := do
  if accounted then
    let (value, storage) ← get
    let (outcome, next) := provider.obtain count size storage
    set (value, next)
    match outcome with
    | .ok address => pure address
    | .error fault => throw fault
  else
    check (Bounds.storage count size)
    pure 0

/-- Gives storage back to the provider when it is accounted. -/
def giveBack (provider : Provider σ) (accounted : Bool) (address : Nat) : Mutation σ γ Unit :=
  if accounted then modify fun (value, storage) => (value, provider.giveBack address storage)
  else pure ()

/-- Runs an operation on a part of the container. `split` takes the container
apart into the part and a way to put a changed part back; what puts it back
should hold the rest of the container only, so that the part is not shared while
the operation changes it. -/
def focus {δ α : Type} (split : γ → δ × (δ → γ)) (inner : Mutation σ δ α) :
    Mutation σ γ α := fun (value, storage) =>
  let (part, rebuild) := split value
  let (outcome, (part, nextStorage)) := inner (part, storage)
  (outcome, (rebuild part, nextStorage))

end Mutation

end HeapKit
