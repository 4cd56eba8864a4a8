/-!
# Allocator errors

An error of the allocator has a cause and a chain of context. The cause is one
of a fixed set of well-known conditions, a leak found at shutdown, or a plain
message from elsewhere. Each context wraps the error in a short explanation;
the message reads the contexts outermost first, each followed by a colon, and
ends with the text of the cause.

A leak is written with its block count and its byte count in binary units,
such as `1.5 KiB`.
-/

namespace HeapKit.Memory

/-- The well-known conditions an allocator operation can run into. -/
inductive Condition where
  | nilBlock
  | illegalPointer
  | doubleFree
  | kindMismatch
  | corruptHeader
  | corruptTail
  | notInMemlist
  | invalidAlignment
  | outOfMemory
  | sizeOverflow
  | allocatorInUse
  | backendFixed
  | sourceUnsupported
  | invalidConfig
  deriving DecidableEq, Repr, Inhabited

namespace Condition

/-- The text of a condition. -/
def text : Condition → String
  | nilBlock => "mem: attempt to free nil block"
  | illegalPointer => "mem: attempt to free illegal pointer"
  | doubleFree => "mem: double free"
  | kindMismatch => "mem: block released through the wrong API"
  | corruptHeader => "mem: error in header"
  | corruptTail => "mem: end corrupt"
  | notInMemlist => "mem: pointer not in memlist"
  | invalidAlignment => "mem: alignment must be a power of two not above 1024"
  | outOfMemory => "mem: out of memory"
  | sizeOverflow => "mem: size overflow"
  | allocatorInUse => "mem: backend switch with live blocks"
  | backendFixed => "mem: backend already switched"
  | sourceUnsupported => "mem: block source not supported on this platform"
  | invalidConfig => "mem: invalid config"

/-- The name under which answers classify a condition. -/
def name : Condition → String
  | nilBlock => "ErrNilBlock"
  | illegalPointer => "ErrIllegalPointer"
  | doubleFree => "ErrDoubleFree"
  | kindMismatch => "ErrKindMismatch"
  | corruptHeader => "ErrCorruptHeader"
  | corruptTail => "ErrCorruptTail"
  | notInMemlist => "ErrNotInMemlist"
  | invalidAlignment => "ErrInvalidAlignment"
  | outOfMemory => "ErrOutOfMemory"
  | sizeOverflow => "ErrSizeOverflow"
  | allocatorInUse => "ErrAllocatorInUse"
  | backendFixed => "ErrBackendFixed"
  | sourceUnsupported => "ErrSourceUnsupported"
  | invalidConfig => "ErrInvalidConfig"

end Condition

/-- A byte count in binary units: below ten as `N B`; otherwise the count in
the largest power of 1024 that fits, to one decimal below ten units and to
whole units from ten on, halves rounding to even there. -/
def binarySize (bytes : Nat) : String :=
  if bytes < 10 then toString bytes ++ " B"
  else
    let units := ["B", "KiB", "MiB", "GiB", "TiB", "PiB", "EiB"]
    let exponent := (List.range 7).foldl
      (fun found candidate => if Nat.pow 1024 candidate ≤ bytes then candidate else found) 0
    let scale := Nat.pow 1024 exponent
    let tenths := (20 * bytes + scale) / (2 * scale)
    let unit := units.getD exponent "EiB"
    if tenths < 100 then
      toString (tenths / 10) ++ "." ++ toString (tenths % 10) ++ " " ++ unit
    else
      let whole := tenths / 10
      let rest := tenths % 10
      let rounded :=
        if rest > 5 || (rest == 5 && whole % 2 == 1) then whole + 1 else whole
      toString rounded ++ " " ++ unit

/-- What an error comes down to. -/
inductive Cause where
  /-- A well-known condition. -/
  | condition (condition : Condition)
  /-- Blocks still in use when the leak check ran. -/
  | leak (blocks bytes : Nat)
  /-- Any other message. -/
  | other (message : String)
  deriving Repr, Inhabited

/-- An error: a cause wrapped in explanations, the outermost first. -/
structure MemError where
  cause : Cause
  context : List String := []
  deriving Repr, Inhabited

namespace MemError

/-- An error of a well-known condition, without context. -/
def of (condition : Condition) : MemError := { cause := .condition condition }

/-- An error of a condition under one explanation. -/
def withContext (condition : Condition) (context : String) : MemError :=
  { cause := .condition condition, context := [context] }

/-- Wraps an error in one more explanation. -/
def wrap (context : String) (error : MemError) : MemError :=
  { error with context := context :: error.context }

/-- The text of the cause alone. -/
def causeText : Cause → String
  | .condition condition => condition.text
  | .leak blocks bytes =>
    "Not freed memory blocks: " ++ toString blocks ++ ", total unfree memory " ++ binarySize bytes
  | .other message => message

/-- The message: every explanation, then the text of the cause. -/
def message (error : MemError) : String :=
  error.context.foldr (fun context rest => context ++ ": " ++ rest) (causeText error.cause)

/-- The name under which answers classify the error. -/
def kindName (error : MemError) : String :=
  match error.cause with
  | .condition condition => condition.name
  | .leak _ _ => "LeakError"
  | .other _ => "error"

/-- Whether the error comes down to a condition. -/
def is (error : MemError) (condition : Condition) : Bool :=
  match error.cause with
  | .condition found => found == condition
  | _ => false

end MemError

end HeapKit.Memory
