import HeapKit.Memory.Header

/-!
# Reading headers back

Little-endian fields read back the value they were written with, up to their
width, and a header reads back as it was encoded (`Header.decode_encode`).
A field read from bytes is canonical: the bytes are the encoding of the value
read (`bytesLE_valueLE`), so two different values never share their bytes.
-/

namespace HeapKit.Endian

theorem toNat_toUInt8_mod (value : Nat) : (value % 256).toUInt8.toNat = value % 256 := by
  simp [Nat.toUInt8]

theorem valueLE_bytesLE (width value : Nat) :
    valueLE (bytesLE width value) = value % Nat.pow 256 width := by
  induction width generalizing value with
  | zero => simp [bytesLE, valueLE, Nat.mod_one]
  | succ width inductionHypothesis =>
    rw [bytesLE, valueLE, inductionHypothesis, toNat_toUInt8_mod,
      show Nat.pow 256 (width + 1) = 256 * Nat.pow 256 width from Nat.mul_comm _ _, Nat.mod_mul]

theorem readLE_bytesLE_append (width value : Nat) (rest : List UInt8) :
    readLE width (bytesLE width value ++ rest) = value % Nat.pow 256 width := by
  rw [readLE, if_neg (by simp [length_bytesLE]), List.take_left' (length_bytesLE width value),
    valueLE_bytesLE]

/-- Bytes are the encoding of the value they hold. -/
theorem bytesLE_valueLE (bytes : List UInt8) : bytesLE bytes.length (valueLE bytes) = bytes := by
  induction bytes with
  | nil => rfl
  | cons byte rest inductionHypothesis =>
    have low : (byte.toNat + 256 * valueLE rest) % 256 = byte.toNat := by
      have := byte.toNat_lt
      omega
    have high : (byte.toNat + 256 * valueLE rest) / 256 = valueLE rest := by
      have := byte.toNat_lt
      omega
    simp only [List.length_cons, bytesLE, valueLE, low, high, inductionHypothesis]
    simp [Nat.toUInt8]

theorem valueLE_lt (bytes : List UInt8) : valueLE bytes < Nat.pow 256 bytes.length := by
  induction bytes with
  | nil => exact Nat.one_pos
  | cons byte rest inductionHypothesis =>
    have := byte.toNat_lt
    show byte.toNat + 256 * valueLE rest < Nat.pow 256 rest.length * 256
    omega

theorem drop_bytesLE_append (width value : Nat) (rest : List UInt8) (count : Nat) (past : width ≤ count) :
    (bytesLE width value ++ rest).drop count = rest.drop (count - width) := by
  rw [List.drop_append, List.drop_eq_nil_of_le (by rw [length_bytesLE]; omega), List.nil_append,
    length_bytesLE]

theorem read16_bytesLE (value : UInt16) (rest : List UInt8) :
    read16 (bytesLE 2 value.toNat ++ rest) = value := by
  rw [read16, readLE_bytesLE_append, Nat.mod_eq_of_lt value.toNat_lt]
  simp

theorem read32_bytesLE (value : UInt32) (rest : List UInt8) :
    read32 (bytesLE 4 value.toNat ++ rest) = value := by
  rw [read32, readLE_bytesLE_append, Nat.mod_eq_of_lt value.toNat_lt]
  simp

theorem read64_bytesLE (value : UInt64) (rest : List UInt8) :
    read64 (bytesLE 8 value.toNat ++ rest) = value := by
  rw [read64, readLE_bytesLE_append, Nat.mod_eq_of_lt value.toNat_lt]
  simp

theorem read32_bytesLE_self (value : UInt32) : read32 (bytesLE 4 value.toNat) = value := by
  simpa using read32_bytesLE value []

/-- A 32-bit field read from at least four bytes is the value of the first four. -/
theorem read32_eq_iff (bytes : List UInt8) (long : 4 ≤ bytes.length) (value : UInt32) :
    read32 bytes = value ↔ bytes.take 4 = bytesLE 4 value.toNat := by
  have sized : (bytes.take 4).length = 4 := by simp; omega
  have small : valueLE (bytes.take 4) < Nat.pow 256 4 := by
    have := valueLE_lt (bytes.take 4)
    rwa [sized] at this
  constructor
  · intro read
    rw [← read, read32, readLE, if_neg (by omega)]
    conv => lhs; rw [← bytesLE_valueLE (bytes.take 4), sized]
    congr 1
    simp only [Nat.toUInt32, UInt32.toNat_ofNat']
    exact (Nat.mod_eq_of_lt small).symm
  · intro front
    rw [read32, readLE, if_neg (by omega), front, valueLE_bytesLE,
      Nat.mod_eq_of_lt value.toNat_lt]
    simp

end HeapKit.Endian

namespace HeapKit.Memory

open HeapKit.Endian

namespace Header

@[simp] theorem length_encode (header : Header) : header.encode.length = 32 := by
  simp [encode, length_bytesLE]

/-- A header reads back as it was written. -/
theorem decode_encode (header : Header) : decode header.encode = header := by
  simp (disch := omega) only [decode, encode, List.append_assoc, List.cons_append,
    List.nil_append, drop_bytesLE_append, List.drop_zero, read32_bytesLE, read16_bytesLE,
    read64_bytesLE, read32_bytesLE_self, byteAt, List.drop_succ_cons, List.headD_cons,
    Nat.reduceSub]

end Header

end HeapKit.Memory
