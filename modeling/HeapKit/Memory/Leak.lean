import HeapKit.Memory.Free

/-!
# Leak detection and shutdown

A leak detector checks, once, that no block is left in use. If blocks are left,
it reports the count and their bytes, warns about every tracked block, and
returns a leak error; under the fail-on-leak setting it then aborts with that
error. Either way it afterwards closes what was kept alive for it, the latest
first, and warns about each object that fails to close.

Closing the allocator runs the detector, if there is one, and withdraws the
metrics, also when the detector aborts. Closing twice does nothing.
-/

namespace HeapKit.Memory

namespace Allocator

/-- Creates the leak detector if there is none yet. -/
def initLeakDetection : AllocM Unit :=
  modify fun allocator =>
    if allocator.detector.isNone then { allocator with detector := some #[] } else allocator

/-- Keeps something alive until the leak check has run. -/
def keepAlive (item : KeptAlive) : AllocM Unit :=
  modify fun allocator => { allocator with detector := allocator.detector.map (·.push item) }

/-- Closes everything kept alive, the latest first. -/
def releaseKept : AllocM Unit := do
  let items := ((← get).detector.getD #[]).toList.reverse
  modify fun allocator => { allocator with detector := allocator.detector.map fun _ => #[] }
  for item in items do
    match item with
    | .closer name failing =>
      modify fun allocator =>
        { allocator with journal := { allocator.journal with closed := allocator.journal.closed.push name } }
      if failing then warn "closing kept-alive data failed" [("err", "close " ++ name ++ " failed")]
    | .value _ => pure ()

/-- Reports the blocks still in use, if any, as a leak. -/
def checkLeaks : AllocM (Option MemError) := do
  let allocator ← get
  let usage := allocator.usage
  if usage.blocks == 0 then return none
  let error : MemError := { cause := .leak usage.blocks usage.inUse }
  reportError ("Error: " ++ error.message)
  for info in allocator.memlist.getD [] do
    warn "leaked block"
      [("tag", info.tag), ("len", toString info.length), ("addr", addressName info.address)]
  return some error

/-- Runs the leak check, once. -/
def runLeakCheck : AllocM (Option MemError) := do
  if (← get).leakRan then return none
  modify fun allocator => { allocator with leakRan := true }
  let outcome ← checkLeaks
  releaseKept
  if let some error := outcome then
    if (← get).settings.failOnLeak then throw (.abort error.message)
  return outcome

/-- Withdraws the metrics. -/
def unregisterMetrics : AllocM Unit :=
  modify fun allocator =>
    { allocator with metrics := allocator.metrics.map fun metrics => { metrics with registered := false } }

/-- Closes the allocator: runs the leak check and withdraws the metrics. -/
def close : AllocM (Option MemError) := do
  if (← get).closed then return none
  modify fun allocator => { allocator with closed := true }
  let outcome ← tryCatch
    (do if (← get).detector.isSome then runLeakCheck else pure none)
    (fun fault => do unregisterMetrics; throw fault)
  unregisterMetrics
  return outcome

end Allocator

end HeapKit.Memory
