import HeapKit.Container.Storage
import HeapKit.Container.Inline
import HeapKit.Container.HashMap.Probe
import HeapKit.Container.HashMap.LoadFactor

/-!
# Open-addressing hash maps

A map keeps its entries in a table of slots: empty, occupied by a key and a
value, or removed (a tombstone). A key is looked for along its probe sequence
until the slot holding it or an empty slot; tombstones are passed over. A new
key goes into the first empty slot of its sequence, so tombstones are reused
only when the table is rebuilt.

The table grows before an insertion would push occupied and removed slots
past the usable count; growing rebuilds it from the occupied slots in table
order and drops every tombstone. A fresh or cleared map has one empty slot and
no usable slots; a released map has no slots at all. Tables of at most the
inline count of four slots live inside the map; larger ones are storage taken
from the map's provider.

Walks along a probe sequence carry a fuel bound after which every slot has
been seen; a walk that exhausts it reports nothing found.
-/

namespace HeapKit

/-- One slot of a table. -/
inductive Slot (κ ν : Type) where
  | empty
  | occupied (key : κ) (value : ν)
  | removed
  deriving Repr, Inhabited

/-- How keys are hashed and compared. -/
structure Hasher (κ : Type) where
  hash : κ → UInt64
  equal : κ → κ → Bool

/-- An open-addressing hash map from `κ` to `ν`. -/
structure HashMap (κ ν : Type) where
  hasher : Hasher κ
  probing : Probing
  loadFactor : LoadFactor
  /-- The bytes of one slot, for storage requests. -/
  slotSize : Nat
  /-- Whether table storage comes from the provider. -/
  accounted : Bool
  slots : Array (Slot κ ν)
  /-- The address of separately obtained table storage. -/
  storage : Option Nat
  usable : Int64
  removed : Nat
  occupiedAndRemoved : Nat
  mask : UInt64

namespace HashMap

variable {κ ν σ : Type}

/-- A fresh map: one empty slot, nothing usable. -/
def empty (hasher : Hasher κ) (probing : Probing) (loadFactor : LoadFactor) (slotSize : Nat)
    (accounted : Bool) : HashMap κ ν :=
  ⟨hasher, probing, loadFactor, slotSize, accounted, #[.empty], none, 0, 0, 0, 0⟩

/-- The number of entries. -/
def size (map : HashMap κ ν) : Nat := map.occupiedAndRemoved - map.removed

/-- The number of slots. -/
def totalSlots (map : HashMap κ ν) : Nat := map.slots.size

/-- The entries in table order. -/
def entries (map : HashMap κ ν) : List (κ × ν) :=
  map.slots.toList.filterMap fun
    | .occupied key value => some (key, value)
    | _ => none

/-! ### Walking probe sequences -/

/-- The slot where the walk for `key` stops: `some (index, true)` at an occupied
slot with an equal key, `some (index, false)` at an empty slot. -/
def walk (map : HashMap κ ν) (key : κ) : Nat → Prober → Option (Nat × Bool)
  | 0, _ => none
  | fuel + 1, prober =>
    let (index, next) := prober.next map.mask
    match map.slots[index]? with
    | some .empty => some (index, false)
    | some (.occupied stored _) =>
      if map.hasher.equal stored key then some (index, true) else map.walk key fuel next
    | _ => map.walk key fuel next

/-- Where the walk for `key` stops. -/
def locate (map : HashMap κ ν) (key : κ) : Option (Nat × Bool) :=
  map.walk key (map.probing.bound map.totalSlots) (map.probing.start (map.hasher.hash key))

/-- The slot holding `key`, if any. An empty map holds nothing. -/
def find? (map : HashMap κ ν) (key : κ) : Option Nat :=
  if map.size == 0 then none
  else
    match map.locate key with
    | some (index, true) => some index
    | _ => none

/-- The first empty slot of the probe sequence of `hash` in `slots`. -/
def firstEmpty (slots : Array (Slot κ ν)) (mask : UInt64) : Nat → Prober → Option Nat
  | 0, _ => none
  | fuel + 1, prober =>
    let (index, next) := prober.next mask
    match slots[index]? with
    | some .empty => some index
    | _ => firstEmpty slots mask fuel next

/-! ### Rebuilding the table -/

/-- Puts the entries, in order, into the first empty slots of their sequences. -/
def placeAll (map : HashMap κ ν) (mask : UInt64) (slots : Array (Slot κ ν)) :
    List (κ × ν) → Array (Slot κ ν)
  | [] => slots
  | (key, value) :: rest =>
    let prober := map.probing.start (map.hasher.hash key)
    let placed := match firstEmpty slots mask (map.probing.bound slots.size) prober with
      | some index => slots.set! index (.occupied key value)
      | none => slots
    map.placeAll mask placed rest

/-- The inline slot count. -/
def inlineSlots (map : HashMap κ ν) : Nat := inlineCapacity map.slotSize

/-- Gives back the table storage, if the table has any. -/
def releaseTable (provider : Provider σ) : Mutation σ (HashMap κ ν) Unit := do
  let map ← Mutation.container
  match map.storage with
  | some address => Mutation.giveBack provider map.accounted address
  | none => pure ()
  Mutation.setContainer { map with storage := none }

/-- Rebuilds the table for at least `minUsable` entries. If storage for the new
table is refused, the map is left as it was. -/
def rehash (provider : Provider σ) (minUsable : Int64) : Mutation σ (HashMap κ ν) Unit := do
  let map ← Mutation.container
  let (total, usable) := map.loadFactor.slots (Int64.ofNat map.inlineSlots) minUsable
  let count := total.toInt.toNat
  let storage ←
    if total.toInt > map.inlineSlots then
      some <$> Mutation.obtain provider map.accounted count map.slotSize
    else pure none
  let mask := (total - 1).toUInt64
  let slots := map.placeAll mask (Array.replicate count .empty) map.entries
  releaseTable provider
  Mutation.modifyContainer fun map =>
    { map with slots, storage, usable, removed := 0, occupiedAndRemoved := map.size, mask }

/-- Grows the table when occupied and removed slots reach the usable count. -/
def ensureRoom (provider : Provider σ) : Mutation σ (HashMap κ ν) Unit := do
  let map ← Mutation.container
  if (map.occupiedAndRemoved : Int) ≥ map.usable.toInt then
    rehash provider (Int64.ofNat (map.size + 1))

/-- Makes room for `count` entries without further growth. -/
def reserve (provider : Provider σ) (count : Int64) : Mutation σ (HashMap κ ν) Unit := do
  let map ← Mutation.container
  if count > map.usable then rehash provider count

/-! ### Insertion -/

/-- After making room, the slot of `key`: `(index, true)` when it holds the key,
`(index, false)` when it is the empty slot where the key belongs. -/
def slotFor (provider : Provider σ) (key : κ) : Mutation σ (HashMap κ ν) (Option (Nat × Bool)) := do
  ensureRoom provider
  return (← Mutation.container).locate key

/-- Stores `key` and `value` in the empty slot `index`. -/
def occupy (index : Nat) (key : κ) (value : ν) : Mutation σ (HashMap κ ν) Unit :=
  Mutation.modifyContainer fun map =>
    { map with slots := map.slots.set! index (.occupied key value),
               occupiedAndRemoved := map.occupiedAndRemoved + 1 }

/-- Replaces the value in slot `index`. -/
def setValue (index : Nat) (value : ν) : Mutation σ (HashMap κ ν) Unit :=
  Mutation.modifyContainer fun map =>
    { map with slots := map.slots.modify index fun
        | .occupied key _ => .occupied key value
        | other => other }

/-- The value in slot `index`. -/
def valueAt? (map : HashMap κ ν) (index : Nat) : Option ν :=
  match map.slots[index]? with
  | some (.occupied _ value) => some value
  | _ => none

/-- Inserts `key` with `value` unless an equal key is present; says whether it did. -/
def insert (provider : Provider σ) (key : κ) (value : ν) : Mutation σ (HashMap κ ν) Bool := do
  match ← slotFor provider key with
  | some (index, false) => occupy index key value; return true
  | _ => return false

/-- Inserts `key` with `value`, or replaces the value of an equal key; says
whether the key was new. -/
def insertOrReplace (provider : Provider σ) (key : κ) (value : ν) :
    Mutation σ (HashMap κ ν) Bool := do
  match ← slotFor provider key with
  | some (index, false) => occupy index key value; return true
  | some (index, true) => setValue index value; return false
  | none => return false

/-- The value of `key`, inserting `value` first when the key is absent; then the
stored value is changed by `change`. Returns the value before the change. -/
def findOrInsert (provider : Provider σ) (key : κ) (value : ν) (change : ν → ν) :
    Mutation σ (HashMap κ ν) (Option ν) := do
  match ← slotFor provider key with
  | some (index, found) =>
    if !found then occupy index key value
    let current := (← Mutation.container).valueAt? index
    match current with
    | some stored => setValue index (change stored)
    | none => pure ()
    return current
  | none => return none

/-! ### Lookup and removal -/

/-- The value of `key`. -/
def get? (map : HashMap κ ν) (key : κ) : Option ν := (map.find? key).bind map.valueAt?

/-- Whether `key` is present. -/
def contains (map : HashMap κ ν) (key : κ) : Bool := (map.find? key).isSome

/-- Changes the value of `key` by `change` when present; returns the old value. -/
def modifyExisting (map : HashMap κ ν) (key : κ) (change : ν → ν) : HashMap κ ν × Option ν :=
  match map.find? key with
  | some index =>
    match map.valueAt? index with
    | some old =>
      ({ map with slots := map.slots.modify index fun
          | .occupied stored _ => .occupied stored (change old)
          | other => other }, some old)
    | none => (map, none)
  | none => (map, none)

/-- Removes `key`, leaving a tombstone; returns its value. -/
def erase (map : HashMap κ ν) (key : κ) : HashMap κ ν × Option ν :=
  match map.find? key with
  | some index =>
    ({ map with slots := map.slots.set! index .removed, removed := map.removed + 1 },
      map.valueAt? index)
  | none => (map, none)

/-- Removes every entry and returns the table storage; one empty slot remains. -/
def clear (provider : Provider σ) : Mutation σ (HashMap κ ν) Unit := do
  releaseTable provider
  Mutation.modifyContainer fun map =>
    { map with slots := #[.empty], usable := 0, removed := 0, occupiedAndRemoved := 0, mask := 0 }

/-- Returns all storage; the map keeps no slots until the next insertion. -/
def release (provider : Provider σ) : Mutation σ (HashMap κ ν) Unit := do
  releaseTable provider
  Mutation.modifyContainer fun map =>
    { map with slots := #[], usable := 0, removed := 0, occupiedAndRemoved := 0, mask := 0 }

end HashMap

end HeapKit
