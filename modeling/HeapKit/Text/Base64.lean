/-!
# Base64

Base64 writes three bytes as four characters of the alphabet `A`–`Z`, `a`–`z`,
`0`–`9`, `+`, `/`, each carrying six bits. A last group of one or two bytes is
written as two or three characters and padded with `=` to four. Line breaks
may stand anywhere and are skipped; bits that padding leaves over are ignored.
-/

namespace HeapKit.Base64

/-- The six bits a character of the alphabet carries. -/
def sextet? (c : Char) : Option Nat :=
  if 'A' ≤ c && c ≤ 'Z' then some (c.toNat - 'A'.toNat)
  else if 'a' ≤ c && c ≤ 'z' then some (c.toNat - 'a'.toNat + 26)
  else if '0' ≤ c && c ≤ '9' then some (c.toNat - '0'.toNat + 52)
  else if c == '+' then some 62
  else if c == '/' then some 63
  else none

/-- Decodes groups of four characters, the bytes so far given in reverse. -/
def decodeGroups : List Char → List UInt8 → Option (List UInt8)
  | [], bytes => some bytes.reverse
  | [a, b, '=', '='], bytes => do
    let value := (← sextet? a) * 64 + (← sextet? b)
    pure ((value / 16).toUInt8 :: bytes).reverse
  | [a, b, c, '='], bytes => do
    let value := ((← sextet? a) * 64 + (← sextet? b)) * 64 + (← sextet? c)
    pure (((value / 4) % 256).toUInt8 :: (value / 1024).toUInt8 :: bytes).reverse
  | a :: b :: c :: d :: rest, bytes => do
    let value := (((← sextet? a) * 64 + (← sextet? b)) * 64 + (← sextet? c)) * 64 + (← sextet? d)
    decodeGroups rest ((value % 256).toUInt8 :: ((value / 256) % 256).toUInt8 ::
      (value / 65536).toUInt8 :: bytes)
  | _, _ => none

/-- The bytes a Base64 text encodes; `none` for text that is not Base64. -/
def decode? (text : String) : Option (List UInt8) :=
  decodeGroups (text.toList.filter fun c => c != '\n' && c != '\r') []

end HeapKit.Base64
