import HeapKit.Container.Vector
import HeapKit.Container.HashMap.Basic

/-!
# Vector maps

A vector map keeps its values in a vector, in insertion order, and indexes them
by key with a hash map from keys to positions. Adding a present key changes
nothing. If appending the value aborts, the key is taken out of the index
again, so both parts still describe the same entries. The two parts may take
their storage from different providers.
-/

namespace HeapKit

/-- Values in insertion order, indexed by key. -/
structure VectorMap (κ ν : Type) where
  index : HashMap κ Int64
  values : Vector ν

namespace VectorMap

variable {κ ν σ : Type} [Inhabited ν]

/-- Runs a map operation on the index. -/
def onIndex {α : Type} (operation : Mutation σ (HashMap κ Int64) α) :
    Mutation σ (VectorMap κ ν) α :=
  Mutation.focus (fun ⟨index, values⟩ => (index, fun index => ⟨index, values⟩)) operation

/-- Runs a vector operation on the values. -/
def onValues {α : Type} (operation : Mutation σ (Vector ν) α) : Mutation σ (VectorMap κ ν) α :=
  Mutation.focus (fun ⟨index, values⟩ => (values, fun values => ⟨index, values⟩)) operation

/-- The number of entries. -/
def length (map : VectorMap κ ν) : Int := map.values.length

/-- Adds `key` with `value` at the end unless the key is present. -/
def insert (slots values : Provider σ) (key : κ) (value : ν) : Mutation σ (VectorMap κ ν) Bool := do
  let position := Int64.ofInt (← Mutation.container).length
  if !(← onIndex (HashMap.insert slots key position)) then return false
  tryCatch (do onValues (Vector.push values value); return true) fun fault => do
    Mutation.modifyContainer fun map => { map with index := (map.index.erase key).1 }
    throw fault

/-- The value of `key`. -/
def get? (map : VectorMap κ ν) (key : κ) : Except BoundsError (Option ν) :=
  match map.index.get? key with
  | some position => (map.values.get position.toInt).map some
  | none => .ok none

/-- Replaces the value of `key` when present; returns the old value. -/
def replace (map : VectorMap κ ν) (key : κ) (value : ν) :
    Except BoundsError (VectorMap κ ν × Option ν) :=
  match map.index.get? key with
  | some position => do
    let old ← map.values.get position.toInt
    let values ← map.values.set position.toInt value
    .ok ({ map with values }, some old)
  | none => .ok (map, none)

/-- Makes room for `count` entries in both parts. -/
def reserve (slots values : Provider σ) (count : Int64) : Mutation σ (VectorMap κ ν) Unit := do
  onValues (Vector.reserve values count.toInt)
  onIndex (HashMap.reserve slots count)

/-- Returns the storage of both parts. -/
def release (slots values : Provider σ) : Mutation σ (VectorMap κ ν) Unit := do
  onValues (Vector.release values)
  onIndex (HashMap.release slots)

/-- The entries in insertion order: each key is placed at its position. -/
def entries [Inhabited κ] (map : VectorMap κ ν) : Except BoundsError (List (κ × ν)) := do
  let count := map.length.toNat
  let keys := map.index.entries.foldl
    (fun keys (entry : κ × Int64) =>
      if entry.2.toInt < 0 then keys else keys.set! entry.2.toInt.toNat entry.1)
    (Array.replicate count default)
  let values ← map.values.items
  .ok (keys.toList.zip values)

end VectorMap

end HeapKit
