/-!
# The FNV-1a 64-bit hash

Start from the offset basis 14695981039346656037 and, for each byte, take the
exclusive or with the byte and multiply by the prime 1099511628211, modulo 2^64.
-/

namespace HeapKit.Hash

/-- The FNV-1a 64-bit hash of a byte string. -/
def fnv1a (bytes : List UInt8) : UInt64 :=
  bytes.foldl (fun hash byte => (hash ^^^ byte.toUInt64) * 1099511628211) 14695981039346656037

end HeapKit.Hash
