/-!
# The djb2 string hash

Start from 5381 and, for each byte, multiply by 33 and add the byte, all
modulo 2^64. Strings that differ only by a carry between neighbouring bytes
("Aa" and "B@") share a hash, which makes the function a handy source of
collisions.
-/

namespace HeapKit.Hash

/-- The djb2 hash of a byte string. -/
def djb2 (bytes : List UInt8) : UInt64 :=
  bytes.foldl (fun hash byte => hash * 33 + byte.toUInt64) 5381

end HeapKit.Hash
