import HeapKit.Bytes.Endian

/-!
# The xxHash64 hash

The 64-bit xxHash with seed zero. Input of at least 32 bytes is consumed in
stripes of 32 bytes by four accumulating lanes; the lanes are merged, the
length is added, and what remains is folded in by eight, four and one byte at a
time before a final avalanche of shifts and multiplications. All arithmetic is
modulo 2^64.
-/

namespace HeapKit.Hash.XxHash

def prime1 : UInt64 := 11400714785074694791
def prime2 : UInt64 := 14029467366897019727
def prime3 : UInt64 := 1609587929392839161
def prime4 : UInt64 := 9650029242287828579
def prime5 : UInt64 := 2870177450012600261

/-- Rotation to the left by `count` bits. -/
def rotateLeft (value : UInt64) (count : UInt64) : UInt64 :=
  (value <<< count) ||| (value >>> (64 - count))

/-- One lane step: mix eight input bytes into an accumulator. -/
def round (accumulator input : UInt64) : UInt64 :=
  rotateLeft (accumulator + input * prime2) 31 * prime1

/-- Folds one lane into the merged hash. -/
def mergeRound (hash lane : UInt64) : UInt64 :=
  (hash ^^^ round 0 lane) * prime1 + prime4

/-- The four lanes of the stripe phase. -/
structure Lanes where
  first : UInt64
  second : UInt64
  third : UInt64
  fourth : UInt64

/-- Mixes one 32-byte stripe into the lanes. -/
def Lanes.absorb (lanes : Lanes) (stripe : List UInt8) : Lanes :=
  ⟨round lanes.first (Endian.read64 stripe), round lanes.second (Endian.read64 (stripe.drop 8)),
    round lanes.third (Endian.read64 (stripe.drop 16)),
    round lanes.fourth (Endian.read64 (stripe.drop 24))⟩

/-- Consumes whole stripes while at least 32 bytes remain. -/
def absorbStripes (lanes : Lanes) (input : List UInt8) : Lanes × List UInt8 :=
  if 32 ≤ input.length then absorbStripes (lanes.absorb (input.take 32)) (input.drop 32)
  else (lanes, input)
termination_by input.length
decreasing_by simp only [List.length_drop]; omega

/-- The merged hash of the lanes. -/
def Lanes.merge (lanes : Lanes) : UInt64 :=
  let hash := rotateLeft lanes.first 1 + rotateLeft lanes.second 7 + rotateLeft lanes.third 12
    + rotateLeft lanes.fourth 18
  mergeRound (mergeRound (mergeRound (mergeRound hash lanes.first) lanes.second) lanes.third)
    lanes.fourth

/-- Folds the bytes after the stripes into the hash. -/
def finish (hash : UInt64) (input : List UInt8) : UInt64 :=
  if 8 ≤ input.length then
    finish (rotateLeft (hash ^^^ round 0 (Endian.read64 input)) 27 * prime1 + prime4)
      (input.drop 8)
  else if 4 ≤ input.length then
    finish (rotateLeft (hash ^^^ (Endian.read32 input).toUInt64 * prime1) 23 * prime2 + prime3)
      (input.drop 4)
  else
    match input with
    | byte :: rest => finish (rotateLeft (hash ^^^ byte.toUInt64 * prime5) 11 * prime1) rest
    | [] => hash
termination_by input.length
decreasing_by all_goals simp only [List.length_drop, List.length_cons]; omega

/-- The final mixing of all bits. -/
def avalanche (hash : UInt64) : UInt64 :=
  let h1 := (hash ^^^ (hash >>> 33)) * prime2
  let h2 := (h1 ^^^ (h1 >>> 29)) * prime3
  h2 ^^^ (h2 >>> 32)

end XxHash

open XxHash in
/-- The xxHash64 hash of a byte string, with seed zero. -/
def xxHash64 (bytes : List UInt8) : UInt64 :=
  let (start, rest) :=
    if 32 ≤ bytes.length then
      let (lanes, rest) := absorbStripes ⟨prime1 + prime2, prime2, 0, 0 - prime1⟩ bytes
      (lanes.merge, rest)
    else (prime5, bytes)
  avalanche (finish (start + bytes.length.toUInt64) rest)

end HeapKit.Hash
