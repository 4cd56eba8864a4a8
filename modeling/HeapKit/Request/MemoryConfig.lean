import HeapKit.Memory.Config
import HeapKit.Request.Decode

/-!
# Allocator configuration in requests

A request gives an allocator's configuration as an object whose fields start
from the defaults. Besides the configuration proper it chooses where reports go
(`sink`), whether metrics are published (`metrics`: `false`, `true`, or
`"dup"` for a registry that already holds a collector of the same name), and,
for a chunk source with a chunk size, whether the allocator sets that source up
itself (`chunk_via_config: true`) or it is made beforehand and handed over, with
chunks of at most 16 MiB. Any other field is refused; text fields must be
strings and flags booleans. The fields are read in that order: the
configuration proper, the chunk source, the sink, the metrics.
-/

namespace HeapKit.Request

open HeapKit.Memory

/-- An allocator's configuration with the choices around it. -/
structure AllocatorSetup where
  config : Config := {}
  sink : Sink := .callback
  metrics : MetricsMode := .off
  /-- Whether a chunk source is made beforehand and handed to the allocator. -/
  givenChunks : Bool := false
  deriving Repr, Inhabited

/-- The fields a configuration object may have. -/
def configFields : List String :=
  ["backend", "source", "chunk_size", "max_block_size", "debug_memset", "leak_detection",
   "fail_on_leak", "abort_on_error", "freed_history", "metrics", "sink", "chunk_via_config"]

/-- The largest chunk size a request may ask for. -/
def chunkSizeLimit : Nat := 16 * 1024 * 1024

/-- Refuses the first field that is not a configuration field. -/
def checkConfigFields : List (String × Json) → Outcome Unit
  | [] => .ok ()
  | (name, _) :: rest =>
    if configFields.contains name then checkConfigFields rest
    else refuse ("unknown config field " ++ Quoted.quote name)

/-- Reads the configuration proper from a configuration object; an absent
object is the defaults. -/
def readConfigFields (document : Json) : Outcome Config := do
  match document with
  | .object fields => checkConfigFields fields
  | _ => refuse "config is not an object"
  let base := Config.default
  let backend ← configTextField document "backend" base.backend
  let source ← configTextField document "source" base.source
  let chunkSize ← uintField document "chunk_size" base.chunkSize.toUInt64
  let maxBlockSize ← uintField document "max_block_size" 0
  let debugMemset ← boolField document "debug_memset" base.debugMemset
  let leakDetection ← boolField document "leak_detection" base.leakDetection
  let failOnLeak ← boolField document "fail_on_leak" base.failOnLeak
  let abortOnError ← boolField document "abort_on_error" base.abortOnError
  let freedHistory ← intField document "freed_history" (Int64.ofInt base.freedHistory)
  pure { backend, source, chunkSize := chunkSize.toNat, maxBlockSize := maxBlockSize.toNat,
         debugMemset, leakDetection, failOnLeak, abortOnError, freedHistory := freedHistory.toInt }

/-- Reads a configuration object for an allocator with the choices around it. -/
def readSetup (document : Json) : Outcome AllocatorSetup := do
  let config ← readConfigFields document
  let sized := config.hasSource "chunk" && 0 < config.chunkSize
  let viaConfig ← if sized then boolField document "chunk_via_config" false else pure false
  let givenChunks := sized && !viaConfig
  if givenChunks && chunkSizeLimit < config.chunkSize then refuse "chunk_size above driver limit"
  let sink ← match fieldOf document "sink" with
    | none | some (.string "callback") => pure Sink.callback
    | some (.string "logger") => pure .logger
    | some (.string other) => refuse ("unknown sink " ++ Quoted.quote other)
    | some _ => refuse "field \"sink\" is not a string"
  let metrics ← match fieldOf document "metrics" with
    | none | some .null | some (.bool false) => pure MetricsMode.off
    | some (.bool true) => pure .fresh
    | some (.string "dup") => pure .duplicate
    | some _ => refuse "metrics must be a bool or \"dup\""
  pure { config, sink, metrics, givenChunks }

/-- A configuration as an answer. -/
def configJson (config : Config) : Json :=
  .object [("backend", bytesJson config.backend), ("source", bytesJson config.source),
    ("chunk_size", .nat config.chunkSize), ("max_block_size", .nat config.maxBlockSize),
    ("debug_memset", .bool config.debugMemset), ("leak_detection", .bool config.leakDetection),
    ("fail_on_leak", .bool config.failOnLeak), ("abort_on_error", .bool config.abortOnError),
    ("backtrace", .bool config.backtrace), ("freed_history", .int config.freedHistory)]

end HeapKit.Request
