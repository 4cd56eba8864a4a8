import HeapKit.Float.Text

/-!
# Allocator metrics

An allocator may publish its counters: the bytes and blocks in use, the peak of
the bytes in use, for a chunk source its chunk count and capacity, and how many
errors it has reported for each reason. A sample is written as its family name,
its labels in braces and its value in the shortest float notation; the samples
are listed in text order. Once the allocator is closed its metrics are
withdrawn and nothing is listed.
-/

namespace HeapKit.Memory

/-- The published state: whether the metrics are still registered, and the error
count of each reason in the order the reasons first occurred. -/
structure Metrics where
  registered : Bool := true
  errors : List (String × Nat) := []
  deriving Repr, Inhabited

namespace Metrics

/-- Counts one more error of a reason. -/
def observe (reason : String) (metrics : Metrics) : Metrics :=
  if metrics.errors.any (·.1 == reason) then
    { metrics with errors := metrics.errors.map fun (other, count) =>
        if other == reason then (other, count + 1) else (other, count) }
  else { metrics with errors := metrics.errors ++ [(reason, 1)] }

/-- One sample: family, labels and value. -/
def sample (family : String) (labels : List (String × String)) (value : Nat) : String :=
  "fears_mem_" ++ family ++ "\x7b" ++
    ",".intercalate (labels.map fun (name, text) => name ++ "=\"" ++ text ++ "\"") ++ "\x7d " ++
    FloatText.ofBinary64 (Binary64.ofNat value)

/-- The published samples in text order, given the gauges' current values and,
for a chunk source, its chunk count and capacity. -/
def samples (metrics : Metrics) (inUse blocks peak : Nat) (chunks : Option (Nat × Nat)) :
    List String :=
  if !metrics.registered then []
  else
    let gauges :=
      [sample "in_use_bytes" [] inUse, sample "blocks_in_use" [] blocks, sample "peak_bytes" [] peak]
    let sourceGauges := match chunks with
      | some (count, capacity) =>
        [sample "source_chunks" [] count, sample "source_capacity_bytes" [] capacity]
      | none => []
    let errors := metrics.errors.map fun (reason, count) => sample "errors_total" [("reason", reason)] count
    (errors ++ gauges ++ sourceGauges).mergeSort fun a b => decide (a ≤ b)

end Metrics

end HeapKit.Memory
