import HeapKit.Container.Bounds

/-!
# Faults

An operation that cannot go on stops with a fault: a violated bound of an
index, a slice or an allocation size, the use of an object that does not
exist, an abort with a message, or the refusal of a value the operation was
handed. What the operation changed before it stopped stays changed.
-/

namespace HeapKit

/-- Why an operation stopped. -/
inductive Fault where
  /-- A bound check failed. -/
  | bounds (error : BoundsError)
  /-- The operation used an object that does not exist. -/
  | missing
  /-- The operation aborted with a message. -/
  | abort (message : String)
  /-- The operation refused a value it was handed. -/
  | refused (message : String)
  deriving Repr, Inhabited

/-- The message of using an object that does not exist. -/
def missingObjectMessage : String := "runtime error: invalid memory address or nil pointer dereference"

end HeapKit
