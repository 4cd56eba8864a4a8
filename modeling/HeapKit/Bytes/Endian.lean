/-!
# Little-endian fields

Fixed-width unsigned fields stored least significant byte first. Reading a
field from fewer bytes than its width gives zero, and writing one into fewer
bytes leaves them untouched: a short buffer is never partly read or written.
-/

namespace HeapKit.Endian

/-- The value of bytes taken least significant first. -/
def valueLE : List UInt8 → Nat
  | [] => 0
  | byte :: rest => byte.toNat + 256 * valueLE rest

/-- The `width`-byte field at the front, or zero when fewer bytes remain. -/
def readLE (width : Nat) (bytes : List UInt8) : Nat :=
  if bytes.length < width then 0 else valueLE (bytes.take width)

/-- The `width` bytes of `value`, least significant first. -/
def bytesLE : Nat → Nat → List UInt8
  | 0, _ => []
  | width + 1, value => (value % 256).toUInt8 :: bytesLE width (value / 256)

/-- Writes `value` into the `width`-byte field at the front; a buffer shorter than
the field is returned unchanged. -/
def writeLE (width value : Nat) (bytes : List UInt8) : List UInt8 :=
  if bytes.length < width then bytes else bytesLE width value ++ bytes.drop width

/-- A 16-bit field. -/
def read16 (bytes : List UInt8) : UInt16 := (readLE 2 bytes).toUInt16
/-- A 32-bit field. -/
def read32 (bytes : List UInt8) : UInt32 := (readLE 4 bytes).toUInt32
/-- A 64-bit field. -/
def read64 (bytes : List UInt8) : UInt64 := (readLE 8 bytes).toUInt64

/-- Stores a 16-bit field. -/
def write16 (bytes : List UInt8) (value : UInt16) : List UInt8 := writeLE 2 value.toNat bytes
/-- Stores a 32-bit field. -/
def write32 (bytes : List UInt8) (value : UInt32) : List UInt8 := writeLE 4 value.toNat bytes
/-- Stores a 64-bit field. -/
def write64 (bytes : List UInt8) (value : UInt64) : List UInt8 := writeLE 8 value.toNat bytes

theorem length_bytesLE (width value : Nat) : (bytesLE width value).length = width := by
  induction width generalizing value with
  | zero => rfl
  | succ width inductionHypothesis => simp [bytesLE, inductionHypothesis]

theorem length_writeLE (width value : Nat) (bytes : List UInt8) :
    (writeLE width value bytes).length = bytes.length := by
  unfold writeLE
  split
  · rfl
  · simp only [List.length_append, length_bytesLE, List.length_drop]
    omega

end HeapKit.Endian
