import HeapKit.Fault

/-!
# Error reports

The allocator reports the errors it finds as they happen, before it returns
them. A report has a level, a message and named fields. Where a report goes
depends on the sink:

* a callback receives the message followed by ` name=value` for each field
  other than the reason and the block;
* a logger writes one line in logfmt: `level=`, `msg=` and then every field,
  each value quoted when it holds a space, a control character, `=` or `"`.

A block error names the block (by its tag or its address) and a reason, counts
the reason, and under an abort policy stops the operation with the message.

Everything the outside world can observe of the allocator is collected in a
journal: the reports, the values whose finalizers ran, and the kept-alive
objects that were closed.
-/

namespace HeapKit.Memory

/-- Where reports go. -/
inductive Sink where
  | callback
  | logger
  deriving DecidableEq, Repr, Inhabited

/-- How serious a report is. -/
inductive Level where
  | error
  | warn
  deriving DecidableEq, Repr, Inhabited

/-- The name of a level in a log line. -/
def Level.name : Level → String
  | .error => "error"
  | .warn => "warn"

/-- The reporter's policy: where reports go, and whether a block error aborts. -/
structure Reporter where
  sink : Sink := .callback
  abortOnError : Bool := false
  deriving Repr, Inhabited

/-- What has been observed so far. -/
structure Journal where
  reports : Array String := #[]
  finalized : Array Int := #[]
  closed : Array String := #[]
  deriving Repr, Inhabited

namespace Logfmt

/-- The digits of lowercase hexadecimal. -/
def hexDigit (value : Nat) : Char :=
  if value < 10 then Char.ofNat (48 + value) else Char.ofNat (87 + value)

/-- Whether a character forces a value into quotes. -/
def forcesQuotes (c : Char) : Bool :=
  c.toNat ≤ 32 || c == '=' || c == '"' || c.toNat == 0xFFFD

/-- A character inside a quoted value. -/
def escapeChar (c : Char) : String :=
  if c == '\\' then "\\\\"
  else if c == '"' then "\\\""
  else if c == '\n' then "\\n"
  else if c == '\r' then "\\r"
  else if c == '\t' then "\\t"
  else if c.toNat < 32 then
    "\\u00" ++ String.singleton (hexDigit (c.toNat / 16)) ++ String.singleton (hexDigit (c.toNat % 16))
  else if c.toNat == 0xFFFD then "\\ufffd"
  else String.singleton c

/-- A value as logfmt writes it. -/
def value (text : String) : String :=
  if text == "null" then "\"null\""
  else if text.toList.any forcesQuotes then
    "\"" ++ String.join (text.toList.map escapeChar) ++ "\""
  else text

/-- A line of fields. -/
def line (fields : List (String × String)) : String :=
  " ".intercalate (fields.map fun (name, text) => name ++ "=" ++ value text)

end Logfmt

namespace Reporter

/-- The text a callback receives. -/
def callbackText (message : String) (fields : List (String × String)) : String :=
  message ++ String.join ((fields.filter fun (name, _) => name != "reason" && name != "block").map
    fun (name, text) => " " ++ name ++ "=" ++ text)

/-- The line a logger writes. -/
def loggerText (level : Level) (message : String) (fields : List (String × String)) : String :=
  Logfmt.line ([("level", level.name), ("msg", message)] ++ fields)

/-- The text a report leaves in the journal. -/
def render (reporter : Reporter) (level : Level) (message : String)
    (fields : List (String × String)) : String :=
  match reporter.sink with
  | .callback => callbackText message fields
  | .logger => loggerText level message fields

/-- The message of a block error. -/
def blockMessage (block message : String) : String := "MemoryBlock " ++ block ++ ": " ++ message

end Reporter

end HeapKit.Memory
