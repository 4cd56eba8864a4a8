import HeapKit.Float.Binary
import HeapKit.Hash.Djb2

/-!
# Keys of hash maps

A map's key type is chosen when the map is made: signed and unsigned words of
several widths, binary64 and binary32 floats, booleans, byte strings, views of
byte strings, and `collide` keys, 64-bit integers that bring their own hash.
All key values share one type, `Key`; the kind decides how a key hashes and
when two keys are equal.

The default hash of a kind: a word hashes to its value, a signed one sign
extended to 64 bits; a float to its bit pattern, with negative zero taken as
positive zero because the two are equal; `true` to 1298191 and `false` to 0;
a byte string to its djb2 hash; a `collide` key to its low two bits, so that
keys collide in fours.
-/

namespace HeapKit

/-- The kinds of keys a map can have. -/
inductive KeyKind where
  | signed (width : Nat)
  | unsigned (width : Nat)
  | binary64
  | binary32
  | boolean
  | text
  | textView
  | collide
  deriving DecidableEq, Repr, Inhabited

/-- A key value. -/
inductive Key where
  | integer (value : Int)
  | float64 (value : Binary64)
  | float32 (value : Binary32)
  | boolean (value : Bool)
  | bytes (value : List UInt8)
  deriving DecidableEq, Repr, Inhabited

namespace Key

/-- The hash of a word: its value modulo 2^64, so negative values are sign extended. -/
def wordHash (value : Int) : UInt64 := (value % Int.pow 2 64).toNat.toUInt64

/-- The hash of a binary64 float: its bits, with both zeros hashing alike. -/
def float64Hash (value : Binary64) : UInt64 := if value.isZero then 0 else value.bits

/-- The hash of a binary32 float: its bits, with both zeros hashing alike. -/
def float32Hash (value : Binary32) : UInt64 := if value.isZero then 0 else value.bits.toUInt64

/-- The hash of `true`. -/
def trueHash : UInt64 := 1298191

end Key

namespace KeyKind

/-- The default hash of a key of this kind. -/
def hash (kind : KeyKind) (key : Key) : UInt64 :=
  match kind, key with
  | .collide, .integer value => Key.wordHash value &&& 3
  | _, .integer value => Key.wordHash value
  | _, .float64 value => Key.float64Hash value
  | _, .float32 value => Key.float32Hash value
  | _, .boolean value => if value then Key.trueHash else 0
  | _, .bytes value => Hash.djb2 value

/-- Key equality: numeric equality for floats, equality of values otherwise. -/
def equal (_kind : KeyKind) : Key → Key → Bool
  | .float64 a, .float64 b => a.equal b
  | .float32 a, .float32 b => a.equal b
  | a, b => a == b

/-- The bytes of one slot of a map from keys of this kind to 64-bit values: a
state byte, the key and the value, each at its natural alignment. -/
def slotSize : KeyKind → Nat
  | .signed 64 => 24
  | .unsigned 64 => 24
  | .binary64 => 24
  | .collide => 24
  | .text => 32
  | .textView => 32
  | _ => 16

end KeyKind

end HeapKit
