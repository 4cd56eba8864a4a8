/-!
# Hexadecimal text of bytes

Bytes are written as two lowercase hexadecimal digits each. Reading accepts
either case and refuses text of odd length or with any other character.
-/

namespace HeapKit.Hex

/-- The value of one hexadecimal digit, in either case. -/
def digitValue? (c : Char) : Option Nat :=
  if '0' ≤ c && c ≤ '9' then some (c.toNat - '0'.toNat)
  else if 'a' ≤ c && c ≤ 'f' then some (c.toNat - 'a'.toNat + 10)
  else if 'A' ≤ c && c ≤ 'F' then some (c.toNat - 'A'.toNat + 10)
  else none

/-- The lowercase digit of a value below sixteen. -/
def digit (value : Nat) : Char :=
  if value < 10 then Char.ofNat (48 + value) else Char.ofNat (87 + value)

/-- Reads pairs of digits into bytes. -/
def decodeChars : List Char → Option (List UInt8)
  | [] => some []
  | high :: low :: rest => do
    let h ← digitValue? high
    let l ← digitValue? low
    let tail ← decodeChars rest
    some ((h * 16 + l).toUInt8 :: tail)
  | [_] => none

/-- The bytes a hexadecimal text spells, if it spells any. -/
def decode? (text : String) : Option (List UInt8) := decodeChars text.toList

/-- The two digits of one byte. -/
def byteDigits (byte : UInt8) : List Char := [digit (byte.toNat / 16), digit (byte.toNat % 16)]

/-- The lowercase hexadecimal text of bytes. -/
def encode (bytes : List UInt8) : String := String.ofList (bytes.flatMap byteDigits)

theorem decodeChars_byteDigits (bytes : List UInt8) :
    decodeChars (bytes.flatMap byteDigits) = some bytes := by
  induction bytes with
  | nil => rfl
  | cons byte rest inductionHypothesis =>
    have high : byte.toNat / 16 < 16 := by have := byte.toNat_lt; omega
    have low : byte.toNat % 16 < 16 := Nat.mod_lt _ (by decide)
    have digitBack : ∀ v, v < 16 → digitValue? (digit v) = some v := by decide
    simp only [List.flatMap_cons, byteDigits, List.cons_append, List.nil_append, decodeChars,
      digitBack _ high, digitBack _ low, inductionHypothesis, Option.bind_eq_bind, Option.bind_some]
    congr 2
    rw [Nat.div_add_mod' byte.toNat 16]
    exact UInt8.ofNat_toNat

end HeapKit.Hex
