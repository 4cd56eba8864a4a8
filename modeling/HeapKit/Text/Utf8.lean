/-!
# UTF-8

Text inside the library is a sequence of bytes. It is shown as characters only
when the bytes are well-formed UTF-8 in the sense of the Unicode standard: the
shortest encoding of each scalar value, no surrogates, nothing above U+10FFFF.
The check follows the table of well-formed byte sequences byte by byte.
-/

namespace HeapKit.Utf8

/-- Whether a byte continues a multi-byte sequence. -/
def isContinuation (byte : UInt8) : Bool := 0x80 ≤ byte && byte ≤ 0xBF

/-- The payload bits of a continuation byte. -/
def low6 (byte : UInt8) : Nat := byte.toNat % 64

/-- Decodes well-formed UTF-8 into characters; `none` for any ill-formed input. -/
def decode? : List UInt8 → Option (List Char)
  | [] => some []
  | b0 :: rest =>
    if b0 < 0x80 then (decode? rest).map (Char.ofNat b0.toNat :: ·)
    else if 0xC2 ≤ b0 && b0 ≤ 0xDF then
      match rest with
      | b1 :: more =>
        if isContinuation b1 then
          (decode? more).map (Char.ofNat ((b0.toNat % 32) * 64 + low6 b1) :: ·)
        else none
      | [] => none
    else if 0xE0 ≤ b0 && b0 ≤ 0xEF then
      match rest with
      | b1 :: b2 :: more =>
        let lowest : UInt8 := if b0 == 0xE0 then 0xA0 else 0x80
        let highest : UInt8 := if b0 == 0xED then 0x9F else 0xBF
        if lowest ≤ b1 && b1 ≤ highest && isContinuation b2 then
          (decode? more).map
            (Char.ofNat ((b0.toNat % 16) * 4096 + low6 b1 * 64 + low6 b2) :: ·)
        else none
      | _ => none
    else if 0xF0 ≤ b0 && b0 ≤ 0xF4 then
      match rest with
      | b1 :: b2 :: b3 :: more =>
        let lowest : UInt8 := if b0 == 0xF0 then 0x90 else 0x80
        let highest : UInt8 := if b0 == 0xF4 then 0x8F else 0xBF
        if lowest ≤ b1 && b1 ≤ highest && isContinuation b2 && isContinuation b3 then
          (decode? more).map (Char.ofNat ((b0.toNat % 8) * 262144 + low6 b1 * 4096
            + low6 b2 * 64 + low6 b3) :: ·)
        else none
      | _ => none
    else none

/-- Whether bytes are well-formed UTF-8. -/
def isValid (bytes : List UInt8) : Bool := (decode? bytes).isSome

/-- The number of bytes a sequence with this leading byte takes when well-formed. -/
def sequenceLength (byte : UInt8) : Nat :=
  if byte < 0x80 then 1
  else if 0xC2 ≤ byte && byte ≤ 0xDF then 2
  else if 0xE0 ≤ byte && byte ≤ 0xEF then 3
  else if 0xF0 ≤ byte && byte ≤ 0xF4 then 4
  else 1

/-- Decodes bytes into characters, each byte that starts no well-formed sequence
becoming one U+FFFD. -/
def decodeLossy (bytes : List UInt8) : List Char :=
  match bytes with
  | [] => []
  | b0 :: rest =>
    let more := sequenceLength b0 - 1
    match decode? (b0 :: rest.take more) with
    | some [c] => c :: decodeLossy (rest.drop more)
    | _ => Char.ofNat 0xFFFD :: decodeLossy rest
termination_by bytes.length
decreasing_by all_goals simp only [List.length_drop, List.length_cons]; omega

/-- The UTF-8 bytes of a string. -/
def encode (text : String) : List UInt8 := text.toUTF8.toList

end HeapKit.Utf8
