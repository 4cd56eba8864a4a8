import HeapKit.Request.Decode
import HeapKit.Bytes.Endian
import HeapKit.Container.Inline

/-!
# Field codec and inline capacity requests

`buf` requests read or write one little-endian field at the front of a byte
string; the bytes are read before the function, which must be named, and a
field to write needs a `value`, an unsigned integer of the field's width. `inline_capacity` requests ask how many elements of a named type a
container keeps inline.
-/

namespace HeapKit.Request

/-- Answers a `buf` request. The bytes are read before the function, which must
be named. -/
def fieldCodec (request : Json) : Outcome Json := do
  let digits ← textField request "hex"
  let bytes ← match Hex.decode? digits with
    | some bytes => .ok bytes
    | none => refuse "bad hex"
  let function ← requiredText request "fn"
  let value (limit : Nat) : Outcome Nat := do
    let value ← readUInt64 "value" ((fieldOf request "value").getD .null)
    if value.toNat < limit then .ok value.toNat else refuse "value out of range"
  let written (result : List UInt8) : Outcome Json := .ok (.object [("hex", .string (Hex.encode result))])
  match function with
  | "u16" => .ok (.object [("value", Json.nat (Endian.read16 bytes).toNat)])
  | "u32" => .ok (.object [("value", Json.nat (Endian.read32 bytes).toNat)])
  | "u64" => .ok (.object [("value", Json.nat (Endian.read64 bytes).toNat)])
  | "put16" => do written (Endian.writeLE 2 (← value (Nat.pow 2 16)) bytes)
  | "put32" => do written (Endian.writeLE 4 (← value (Nat.pow 2 32)) bytes)
  | "put64" => do written (Endian.writeLE 8 (← value (Nat.pow 2 64)) bytes)
  | other => refuse ("unknown fn " ++ Quoted.quote other)

/-- The size in bytes of an element type named by an `inline_capacity` request. -/
def namedTypeSize? : String → Option Nat
  | "int8" => some 1
  | "int64" => some 8
  | "string" => some 16
  | "big" => some 104
  | "bytes0" => some 0
  | "bytes99" => some 99
  | "bytes100" => some 100
  | _ => none

/-- Answers an `inline_capacity` request. -/
def inlineCapacityOf (request : Json) : Outcome Json := do
  let name ← requiredText request "type"
  match namedTypeSize? name with
  | some size => .ok (.object [("inline_capacity", Json.nat (inlineCapacity size))])
  | none => refuse ("unknown type " ++ Quoted.quote name)

end HeapKit.Request
