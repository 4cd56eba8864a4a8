import HeapKit.Float.Text
import HeapKit.Text.Quoted
import HeapKit.Yaml.Timestamp

/-!
# Untyped values

A node read with no field to read it into becomes an untyped value: null, a
truth value, a signed or an unsigned integer, a float, a byte string, a
timestamp, a list, or a mapping. A mapping remembers whether every key of its node was text (a
text-keyed mapping) or keys may be of any kind.

Scalars and null are keys that can be compared: values of different kinds are
different, floats compare numerically (a NaN equals nothing), byte strings
byte by byte, and timestamps as time values (the same instant and nanoseconds
in the same zone object); a timestamp is never the same key as a string.
Setting a key that is already there replaces the key as well as the value,
which shows when a zero replaces a negative zero. Lists and mappings cannot be compared as keys at all.

Messages spell an untyped value as a literal of its dynamic type: strings
quoted, unsigned integers in hex after `0x`, floats in their shortest form,
timestamps as `time.Date(...)`, and collections as `[]interface {}{...}` or
`map[string]interface {}{...}` with the entries of a mapping in the order of
their keys. Keys of different types are ordered by type: null, unsigned
integers, integers, floats, truth values, strings, timestamps; keys of one type
by value, floats with NaN first, timestamps by nanoseconds, then instant, then
zone.
-/

namespace HeapKit.Yaml

/-- A value read with no field to read it into. -/
inductive Untyped where
  | null
  | boolean (value : Bool)
  /-- An integer in the signed 64-bit range. -/
  | integer (value : Int)
  /-- An integer above the signed 64-bit range. -/
  | unsigned (value : Nat)
  | float (value : Binary64)
  | text (value : List UInt8)
  /-- A timestamp. -/
  | time (stamp : Stamp)
  | list (items : List Untyped)
  /-- A mapping, text-keyed or not, with its entries in the order read. -/
  | map (textKeys : Bool) (entries : List (Untyped × Untyped))
  deriving Repr, Inhabited

namespace Untyped

/-- Whether the value is a list or a mapping, which cannot be a key. -/
def isCollection : Untyped → Bool
  | .list _ | .map _ _ => true
  | _ => false

/-- The name of a value's dynamic type, as messages give it. -/
def typeName : Untyped → String
  | .null => "nil"
  | .boolean _ => "bool"
  | .integer _ => "int"
  | .unsigned _ => "uint64"
  | .float _ => "float64"
  | .text _ => "string"
  | .time _ => "time.Time"
  | .list _ => "[]interface \x7b\x7d"
  | .map true _ => "map[string]interface \x7b\x7d"
  | .map false _ => "map[interface \x7b\x7d]interface \x7b\x7d"

/-- Whether two keys are the same key. Collections are never the same as
anything; callers refuse them as keys beforehand. -/
def sameKey : Untyped → Untyped → Bool
  | .null, .null => true
  | .boolean a, .boolean b => a == b
  | .integer a, .integer b => a == b
  | .unsigned a, .unsigned b => a == b
  | .float a, .float b => a.equal b
  | .text a, .text b => a == b
  | .time a, .time b => a.same b
  | _, _ => false

/-- Sets a key and its value in a mapping's entries, in place of an entry with
the same key or else at the end. -/
def put (entries : List (Untyped × Untyped)) (key value : Untyped) : List (Untyped × Untyped) :=
  if entries.any (fun entry => sameKey entry.1 key) then
    entries.map fun entry => if sameKey entry.1 key then (key, value) else entry
  else entries ++ [(key, value)]

/-- Whether the bytes `a` come before the bytes `b` in byte order. -/
def bytesBefore : List UInt8 → List UInt8 → Bool
  | [], [] => false
  | [], _ :: _ => true
  | _ :: _, [] => false
  | x :: xs, y :: ys => x < y || (x == y && bytesBefore xs ys)

/-- The rank of a key's type in the order keys are printed. -/
def typeRank : Untyped → Nat
  | .null => 0
  | .unsigned _ => 1
  | .integer _ => 2
  | .float _ => 3
  | .boolean _ => 4
  | .text _ => 5
  | .time _ => 6
  | .list _ => 7
  | .map _ _ => 8

/-- Whether key `a` is printed before key `b`: by type, then by value. -/
def keyBefore (a b : Untyped) : Bool :=
  match a, b with
  | .unsigned x, .unsigned y => x < y
  | .integer x, .integer y => x < y
  | .float x, .float y => x.before y
  | .boolean x, .boolean y => !x && y
  | .text x, .text y => bytesBefore x y
  | .time x, .time y => x.before y
  | _, _ => a.typeRank < b.typeRank

/-- The entries of a mapping in the order they are printed, by key; entries
whose keys are not ordered apart keep their order. -/
def printOrder (entries : List (Untyped × Untyped)) : List (Untyped × Untyped) :=
  entries.mergeSort fun a b => !keyBefore b.1 a.1

/-- The value as a literal of its dynamic type; `fuel` bounds the depth. -/
def literal : Nat → Untyped → String
  | 0, _ => "..."
  | _ + 1, .null => "interface \x7b\x7d(nil)"
  | _ + 1, .boolean value => toString value
  | _ + 1, .integer value => toString value
  | _ + 1, .unsigned value => "0x" ++ String.ofList (Nat.toDigits 16 value)
  | _ + 1, .float value => FloatText.ofBinary64 value
  | _ + 1, .text value => Quoted.quoteBytes value
  | _ + 1, .time stamp => stamp.literal
  | fuel + 1, .list items => "[]interface \x7b\x7d\x7b" ++ ", ".intercalate (items.map (literal fuel)) ++ "\x7d"
  | fuel + 1, .map textKeys entries =>
    let shown := (printOrder entries).map fun (key, value) => literal fuel key ++ ":" ++ literal fuel value
    (if textKeys then "map[string]interface \x7b\x7d\x7b" else "map[interface \x7b\x7d]interface \x7b\x7d\x7b") ++
      ", ".intercalate shown ++ "\x7d"

end Untyped

end HeapKit.Yaml
