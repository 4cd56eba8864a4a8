import HeapKit.Memory.Leak
import HeapKit.Memory.Typed
import HeapKit.Text.Quoted

/-!
# Allocator configuration

A configuration names the backend and the source, the chunk size of a chunk
source, a limit on the size of a single block (zero for none), and switches for
memset debugging, leak detection, failing on a leak, aborting on every reported
error and attaching backtraces, and the size of the freed-address history.

Backend and source names are bytes as given, which need not be UTF-8; a
message quotes them byte by byte.

A configuration is valid when it names a known backend and a known source, a
chunk source has a positive chunk size, and the history size is not negative.
Making an allocator validates first, then sets up the source, the backend, the
leak detector and the metrics, in that order.
-/

namespace HeapKit.Memory

/-- The settings of an allocator, as a configuration gives them. -/
structure Config where
  backend : List UInt8 := Utf8.encode "lockfree"
  source : List UInt8 := Utf8.encode "heap"
  chunkSize : Nat := defaultChunkSize
  maxBlockSize : Nat := 0
  debugMemset : Bool := false
  leakDetection : Bool := true
  failOnLeak : Bool := false
  abortOnError : Bool := false
  backtrace : Bool := false
  freedHistory : Int := 4096
  deriving Repr, Inhabited, DecidableEq

namespace Config

/-- The default configuration. -/
def default : Config := {}

/-- Whether the configuration names this backend. -/
def hasBackend (config : Config) (name : String) : Bool := config.backend == Utf8.encode name

/-- Whether the configuration names this source. -/
def hasSource (config : Config) (name : String) : Bool := config.source == Utf8.encode name

/-- The first problem of a configuration, if any. -/
def validate (config : Config) : Option MemError :=
  if !(["lockfree", "guarded"].any config.hasBackend) then
    some (MemError.withContext .invalidConfig ("unknown backend " ++ Quoted.quoteBytes config.backend))
  else if !(["heap", "chunk", "mmap"].any config.hasSource) then
    some (MemError.withContext .invalidConfig ("unknown source " ++ Quoted.quoteBytes config.source))
  else if config.hasSource "chunk" && config.chunkSize == 0 then
    some (MemError.withContext .invalidConfig "chunk_size must be positive")
  else if config.freedHistory < 0 then
    some (MemError.withContext .invalidConfig ("negative freed_history " ++ toString config.freedHistory))
  else none

/-- A chunk size read as a signed machine integer. -/
def signedChunkSize (config : Config) : Int :=
  if config.chunkSize < Nat.pow 2 63 then config.chunkSize
  else (config.chunkSize : Int) - Int.pow 2 64

end Config

/-- Whether and how metrics are published. -/
inductive MetricsMode where
  /-- No metrics. -/
  | off
  /-- Metrics on a registry of their own. -/
  | fresh
  /-- Metrics on a registry that already holds a collector of the same name. -/
  | duplicate
  deriving DecidableEq, Repr, Inhabited

namespace Allocator

/-- Makes an allocator from a configuration. A chunk source may be given, already
placed in the space; otherwise the configuration's source is set up. -/
def create (config : Config) (sink : Sink) (given : Option ChunkSource) (space : Space)
    (metricsMode : MetricsMode) : Except MemError Allocator := do
  if let some error := config.validate then throw error
  let (source, space) : Source × Space :=
    match given with
    | some chunks => (.chunk chunks, space)
    | none =>
      if config.hasSource "chunk" then
        let (chunks, space) := ChunkSource.create config.signedChunkSize space
        (.chunk chunks, space)
      else if config.hasSource "mmap" then (.mmap, space)
      else (.heap, space)
  let allocator : Allocator :=
    { settings := { maxBlockSize := config.maxBlockSize, debugMemset := config.debugMemset,
                    failOnLeak := config.failOnLeak, freedHistory := config.freedHistory },
      reporter := { sink, abortOnError := config.abortOnError },
      space, source }
  let allocator :=
    if config.hasBackend "guarded" then (useGuarded.run.run allocator).2 else allocator
  let allocator := if config.leakDetection then { allocator with detector := some #[] } else allocator
  match metricsMode with
  | .off => pure allocator
  | .fresh => pure { allocator with metrics := some {} }
  | .duplicate =>
    throw { cause := .other "duplicate metrics collector registration attempted",
            context := ["register mem metrics"] }

end Allocator

end HeapKit.Memory
