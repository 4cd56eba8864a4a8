import HeapKit.Memory.Header
import Std.Data.HashMap

/-!
# Tracked blocks

The tracking backend keeps every live block in a table of numbered slots. The
slots of live blocks are linked both ways in the order the blocks were handed
out, from a head to a tail; the slot of a freed entry goes on a stack and is
reused by the next block, the most recently freed slot first. An index maps
each live payload address to its slot. The header of a tracked block records
its slot plus one, so that a header can be checked against the table.

Freed addresses are remembered, with the tag of their block, in a history of
bounded size that forgets the least recently used address first. A free of an
address that is no longer tracked but is still in the history is a double free
of that tagged block.
-/

namespace HeapKit.Memory

/-- What the tracking backend knows of a live block. -/
structure Entry where
  payload : Nat
  tag : String
  length : Nat
  kind : BlockKind
  alignment : Nat
  deriving Repr, Inhabited

/-- A slot of the table: the slots of the blocks allocated just before and just
after its block, and its entry. A free slot is cleared. -/
structure Slot where
  prev : Option Nat := none
  next : Option Nat := none
  entry : Entry := default
  deriving Repr, Inhabited

/-- The table of live blocks: numbered slots linked in allocation order from
`head` to `tail`, the stack of free slots (its top first), and the slot of each
live payload address. -/
structure Memlist where
  slots : Array Slot := #[]
  freeSlots : List Nat := []
  head : Option Nat := none
  tail : Option Nat := none
  byAddr : Std.HashMap Nat Nat := {}
  deriving Repr, Inhabited

namespace Memlist

/-- The slot for the next entry: the most recently freed one, or a new one at
the end of the table. -/
def allocSlot (list : Memlist) : Nat × Memlist :=
  match list.freeSlots with
  | slot :: rest => (slot, { list with freeSlots := rest })
  | [] => (list.slots.size, { list with slots := list.slots.push {} })

/-- Points a slot's `next` link elsewhere. -/
def setNext (slot : Nat) (next : Option Nat) (list : Memlist) : Memlist :=
  { list with slots := list.slots.modify slot fun cell => { cell with next } }

/-- Points a slot's `prev` link elsewhere. -/
def setPrev (slot : Nat) (prev : Option Nat) (list : Memlist) : Memlist :=
  { list with slots := list.slots.modify slot fun cell => { cell with prev } }

/-- Links an entry in at the tail and returns its slot. -/
def insert (entry : Entry) (list : Memlist) : Nat × Memlist :=
  let (slot, list) := list.allocSlot
  let list := { list with slots := list.slots.set! slot { prev := list.tail, next := none, entry } }
  let list :=
    match list.tail with
    | some tail => list.setNext tail (some slot)
    | none => { list with head := some slot }
  (slot, { list with tail := some slot, byAddr := list.byAddr.insert entry.payload slot })

/-- Takes a slot out of the chain, clears it and pushes it on the free stack. -/
def unlink (slot : Nat) (list : Memlist) : Memlist :=
  let cell := list.slots[slot]?.getD {}
  let list :=
    match cell.prev with
    | some prev => list.setNext prev cell.next
    | none => { list with head := cell.next }
  let list :=
    match cell.next with
    | some next => list.setPrev next cell.prev
    | none => { list with tail := cell.prev }
  { list with slots := list.slots.set! slot {}, freeSlots := slot :: list.freeSlots }

/-- Unlinks the entry in a slot and forgets its payload address. -/
def remove (slot payload : Nat) (list : Memlist) : Memlist :=
  let list := list.unlink slot
  { list with byAddr := list.byAddr.erase payload }

/-- The slot of the live block at a payload address. -/
def slotOf? (payload : Nat) (list : Memlist) : Option Nat := list.byAddr[payload]?

/-- The entry in a slot. -/
def entryAt? (slot : Nat) (list : Memlist) : Option Entry := list.slots[slot]?.map Slot.entry

/-- The slots from `start` on, following `next`, at most `fuel` of them. -/
def walk (list : Memlist) : Nat → Option Nat → List Nat
  | 0, _ => []
  | _ + 1, none => []
  | fuel + 1, some slot => slot :: list.walk fuel (list.slots[slot]?.bind Slot.next)

/-- The chained slots from the head, oldest block first. A chain that visits no
slot twice has at most as many slots as the table. -/
def chain (list : Memlist) : List Nat := list.walk list.slots.size list.head

/-- The live entries in allocation order. -/
def entries (list : Memlist) : List Entry := list.chain.filterMap list.entryAt?

end Memlist

/-- Recently freed addresses with their tags, the most recently used first, at
most `capacity` of them. -/
structure FreedHistory where
  capacity : Nat
  recent : List (Nat × String) := []
  deriving Repr, Inhabited

namespace FreedHistory

/-- Forgets an address. -/
def remove (address : Nat) (history : FreedHistory) : FreedHistory :=
  { history with recent := history.recent.filter fun (other, _) => other != address }

/-- Remembers an address as the most recent, forgetting the least recent one
when the history is full. -/
def add (address : Nat) (tag : String) (history : FreedHistory) : FreedHistory :=
  { history with recent := ((address, tag) :: (history.remove address).recent).take history.capacity }

/-- The tag of a remembered address; looking it up makes it the most recent. -/
def lookup (address : Nat) (history : FreedHistory) : Option String × FreedHistory :=
  match history.recent.find? fun (other, _) => other == address with
  | some (_, tag) => (some tag, history.add address tag)
  | none => (none, history)

end FreedHistory

end HeapKit.Memory
