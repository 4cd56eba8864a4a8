import HeapKit.Request.Script
import HeapKit.Container.Span
import HeapKit.Container.StringRef

/-!
# View requests

Scripts over index ranges, spans of 64-bit integers and byte-string views.
Transforming steps replace the current view; query steps answer a `result`.
Every answer also shows the view after the step. Starts, bounds and the value
looked for in a range must be given. A span's items and the values
it is compared with must be lists, and a span's listing reads its `limit` only
when the span has items.
-/

namespace HeapKit.Request

/-! ### Index ranges -/

/-- The fields that show an index range. -/
def rangeFields (range : IndexRange) : List (String × Json) :=
  [("start", .int range.start.toInt), ("size", .int range.size.toInt),
    ("empty", .bool range.isEmpty), ("one_after_last", .int range.oneAfterLast.toInt),
    ("string", .string range.text)]

/-- One step of an index-range script. -/
def rangeStep (range : IndexRange) (step : Json) : Outcome (IndexRange × Option Json) := do
  let count := fun (_ : Unit) => requiredInt step "n"
  match ← stepName step with
  | "shift" => .ok (range.shift (← count ()), none)
  | "slice" => .ok (range.slice (← requiredInt step "start") (← requiredInt step "size"), none)
  | "drop_front" => .ok (range.dropFront (← count ()), none)
  | "drop_back" => .ok (range.dropBack (← count ()), none)
  | "take_front" => .ok (range.takeFront (← count ()), none)
  | "take_back" => .ok (range.takeBack (← count ()), none)
  | "first" => .ok (range, some (.int range.first.toInt))
  | "last" => .ok (range, some (.int range.last.toInt))
  | "at" => .ok (range, some (.int (range.get (← requiredInt step "i")).toInt))
  | "contains" => .ok (range, some (.bool (range.contains (← requiredInt step "v"))))
  | "equal" =>
    let other : IndexRange := ⟨← requiredInt step "start", ← requiredInt step "size"⟩
    .ok (range, some (.bool (range.sameIndices other)))
  | "all" =>
    let limit ← limitField step
    .ok (range, some (.array ((range.indices limit).map fun index => .int index.toInt)))
  | other => refuse ("unknown index_range step " ++ Quoted.quote other)

/-- Answers a step, keeping the range when the step fails. -/
def withResult {σ : Type} (fields : σ → List (String × Json)) (state : σ)
    (outcome : Outcome (σ × Option Json)) : σ × Json :=
  match outcome with
  | .ok (next, result) =>
    (next, .object (fields next ++ (result.map fun value => ("result", value)).toList))
  | .error failure => (state, .object failure.fields)

/-- Answers an `index_range` request. -/
def indexRangeScript (request : Json) : Outcome Json := do
  let range ← match ← textField request "kind" "from" with
    | "new" => do .ok (IndexRange.upTo (← requiredInt request "size"))
    | "from" => do .ok ⟨← requiredInt request "start", ← requiredInt request "size"⟩
    | "between" => do
      .ok (IndexRange.between (← requiredInt request "begin") (← requiredInt request "end"))
    | other => refuse ("unknown kind " ++ Quoted.quote other)
  let steps ← scriptSteps request
  let (_, answers) := runScript (fun range step => withResult rangeFields range (rangeStep range step))
    range steps
  .ok (.object [("init", .object (rangeFields range)), ("steps", .array answers)])

/-! ### Spans -/

/-- The fields that show a span. -/
def spanFields (span : Span Int64) : List (String × Json) :=
  [("len", .nat span.length), ("empty", .bool (span.length == 0)),
    ("items", .array (span.items.map fun item => .int item.toInt))]

/-- A list of 64-bit integers that a field must give. -/
def int64List (request : Json) (name : String) : Outcome (List Int64) := do
  readEach (readInt64 "value") (← valueList request name)

/-- One step of a span script. -/
def spanStep (span : Span Int64) (step : Json) : Outcome (Span Int64 × Option Json) := do
  let count := fun (_ : Unit) => requiredInt step "n"
  let element (outcome : Except BoundsError Int64) : Outcome (Span Int64 × Option Json) := do
    .ok (span, some (.int (← ofBounds outcome).toInt))
  match ← stepName step with
  | "slice" => .ok (← ofBounds (span.slice (← requiredInt step "start") (← requiredInt step "size")), none)
  | "slice_range" =>
    let range : IndexRange := ⟨← requiredInt step "start", ← requiredInt step "size"⟩
    .ok (← ofBounds (span.sliceRange range), none)
  | "drop_front" => .ok (span.dropFront (← count ()), none)
  | "drop_back" => .ok (span.dropBack (← count ()), none)
  | "take_front" => .ok (span.takeFront (← count ()), none)
  | "take_back" => .ok (span.takeBack (← count ()), none)
  | "at" => element (span.get (← requiredInt step "i"))
  | "first" => element span.first
  | "last" => element span.last
  | "index_range" =>
    let range := span.positions
    .ok (span, some (.object [("start", .int range.start.toInt), ("size", .int range.size.toInt)]))
  | "to_slice" =>
    .ok (span, some (.object [("nil", .bool (span.length == 0)),
      ("items", .array (span.items.map fun item => .int item.toInt))]))
  | "all" =>
    let pairs := (← listedItems step span.items).zipIdx.map fun (item, position) =>
      Json.array [.nat position, .int item.toInt]
    .ok (span, some (.array pairs))
  | "contains" => .ok (span, some (.bool (span.contains (← numberField step "value"))))
  | "equal" => .ok (span, some (.bool (span.equal ⟨← int64List step "values"⟩)))
  | other => refuse ("unknown span step " ++ Quoted.quote other)

/-- Answers a `span` request. -/
def spanScript (request : Json) : Outcome Json := do
  let span : Span Int64 := ⟨← int64List request "items"⟩
  let steps ← scriptSteps request
  let (_, answers) := runScript (fun span step => withResult spanFields span (spanStep span step))
    span steps
  .ok (.object [("init", .object (spanFields span)), ("steps", .array answers)])

/-! ### String views -/

/-- The fields that show a string view. -/
def viewFields (view : StringRef) : List (String × Json) :=
  [("len", .nat view.length), ("empty", .bool (view.length == 0)), ("s", bytesJson view.bytes)]

/-- One step of a string-view script. -/
def viewStep (view : StringRef) (step : Json) : Outcome (StringRef × Option Json) := do
  let argument : Outcome StringRef := do .ok ⟨← readBytes "arg" ((fieldOf step "arg").getD .null)⟩
  match ← stepName step with
  | "substr" =>
    .ok (← ofBounds (view.substr (← requiredInt step "start") (← requiredInt step "size")), none)
  | "drop_prefix" => .ok (← ofBounds (view.dropPrefix (← requiredInt step "n")), none)
  | "drop_suffix" => .ok (← ofBounds (view.dropSuffix (← requiredInt step "n")), none)
  | "at" => .ok (view, some (.nat (← ofBounds (view.byteAt (← requiredInt step "i"))).toNat))
  | "starts_with" => .ok (view, some (.bool (view.startsWith (← argument))))
  | "ends_with" => .ok (view, some (.bool (view.endsWith (← argument))))
  | "find" => .ok (view, some (.int (view.find (← argument))))
  | "hash" => .ok (view, some (.nat view.hash.toNat))
  | other => refuse ("unknown stringref step " ++ Quoted.quote other)

/-- Answers a `stringref` request. The request may say the view was made from
bytes (`from_bytes`), which must then be a boolean and changes nothing else. -/
def stringRefScript (request : Json) : Outcome Json := do
  let bytes ← readBytes "s" ((fieldOf request "s").getD .null)
  let _ ← boolField request "from_bytes"
  let steps ← scriptSteps request
  let view : StringRef := ⟨bytes⟩
  let (_, answers) := runScript (fun view step => withResult viewFields view (viewStep view step))
    view steps
  .ok (.object [("init", .object (viewFields view)), ("steps", .array answers)])

end HeapKit.Request
