import HeapKit.Json.Value

/-!
# Failed requests

A request that cannot run as a whole, or a step of a script that cannot, is
answered by the kind of its failure and a message. The kinds are: input that
cannot be interpreted, a stop by the runtime (a violated bound of a slice or
index, a missing object), any other abort,
and an error of the library that a request returns as its whole answer.
-/

namespace HeapKit.Request

/-- Why a request or a step produced no regular answer. -/
inductive Failure where
  /-- The input could not be interpreted, or was refused. -/
  | badInput (message : String)
  /-- The runtime stopped the operation: a bound was violated or a missing
  object was used. -/
  | runtime (message : String)
  /-- The operation aborted for another reason. -/
  | abort (message : String)
  /-- The library returned an error of the named kind. -/
  | library (kind : String) (message : String)
  deriving Repr, Inhabited

namespace Failure

/-- The name of the failure's kind as answers spell it. -/
def kindName : Failure → String
  | .badInput _ => "bad_input"
  | .runtime _ => "runtime_error"
  | .abort _ => "panic"
  | .library kind _ => kind

/-- The failure's message. -/
def message : Failure → String
  | .badInput message => message
  | .runtime message => message
  | .abort message => message
  | .library _ message => message

/-- The answer fields of a failure. -/
def fields (failure : Failure) : List (String × Json) :=
  [("error", .string failure.kindName), ("message", .string failure.message)]

/-- The answer of a failure. -/
def toJson (failure : Failure) : Json := .object failure.fields

end Failure

/-- The outcome of decoding or running part of a request. -/
abbrev Outcome (α : Type) := Except Failure α

/-- Refuses the input with a message. -/
def refuse {α : Type} (message : String) : Outcome α := .error (.badInput message)

end HeapKit.Request
