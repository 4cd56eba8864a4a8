import HeapKit.Request.VectorScript
import HeapKit.Container.FixedArray

/-!
# Fixed array scripts

A fixed array of 64-bit integers, strings or blocks, made with a size, filled
with one value or copied from a list, then read, written, refilled and resized
step by step. As with vectors, a script can keep one copy of the array and
continue with it in place of the array.

Every answer shows the array after the step: its size, whether its elements are
inline, whether it is empty, how many elements fit inline, and its elements;
queries add a `result`. As for vectors, a listing reads its `limit` only when
there is something to list, and `ptr_set` finds its element before it reads
the value.
-/

namespace HeapKit.Request

open HeapKit.Memory

variable {α : Type} [Inhabited α]

/-- The array and the copy the script keeps, if any. -/
abbrev ArrayPair (α : Type) := FixedArray α × Option (FixedArray α)

/-- The fields that show a fixed array. -/
def arrayFields (codec : Codec α) (array : FixedArray α) : Outcome (List (String × Json)) := do
  let items ← ofBounds array.items
  pure [("len", .int array.size), ("inline", .bool array.isInline), ("empty", .bool (array.size == 0)),
    ("inline_capacity", .nat array.inlineCount), ("items", .array (items.map codec.write))]

/-- Runs a fixed array operation on the array of the pair. -/
def onArray {β : Type} (operation : Mutation Allocator (FixedArray α) β) :
    Mutation Allocator (ArrayPair α) β :=
  Mutation.focus (fun (array, other) => (array, fun array => (array, other))) operation

/-- A query of the array as a result. -/
def arrayQuery (query : FixedArray α → Except BoundsError Json) :
    Mutation Allocator (ArrayPair α) (Option Json) := do
  let array := (← Mutation.container).1
  return some (← Mutation.check (query array))

/-- The action of one step of a fixed array script. -/
def arrayAction (codec : Codec α) (provider : Provider Allocator) (step : Json) :
    Outcome (Mutation Allocator (ArrayPair α) (Option Json)) := do
  let value := fun (_ : Unit) => codec.read ((fieldOf step "value").getD .null)
  match ← stepName step with
  | "first" => pure (arrayQuery fun array => array.first.map codec.write)
  | "last" => pure (arrayQuery fun array => array.last.map codec.write)
  | "at" =>
    let position ← requiredInt step "i"
    pure (arrayQuery fun array => (array.get position.toInt).map codec.write)
  | "set" =>
    let position ← requiredInt step "i"
    let item ← value ()
    pure (do
      let array ← Mutation.check ((← Mutation.container).1.set position.toInt item)
      Mutation.modifyContainer fun pair => (array, pair.2)
      pure none)
  | "ptr_set" =>
    let position ← requiredInt step "i"
    pure (do
      let _ ← Mutation.check ((← Mutation.container).1.get position.toInt)
      let item ← readDuring (value ())
      let array ← Mutation.check ((← Mutation.container).1.set position.toInt item)
      Mutation.modifyContainer fun pair => (array, pair.2)
      pure none)
  | "fill" =>
    let item ← value ()
    pure (do onArray (FixedArray.fill item); pure none)
  | "reinitialize" =>
    let size ← limitedField step "n" countLimit
    pure (do onArray (FixedArray.reinitialize provider size.toInt); pure none)
  | "release" => pure (do onArray (FixedArray.release provider); pure none)
  | "clone" =>
    pure (do
      match (← Mutation.container).2 with
      | some other =>
        let released ← Mutation.focus (fun pair => (other, fun _ => pair))
          (do FixedArray.release provider; Mutation.container)
        Mutation.modifyContainer fun pair => (pair.1, some released)
      | none => pure ()
      let copy ← onArray (FixedArray.copy provider)
      Mutation.modifyContainer fun pair => (pair.1, some copy)
      match arrayFields codec copy with
      | .ok fields => pure (some (.object fields))
      | .error failure => throw (.abort failure.message))
  | "swap_clone" =>
    pure (do
      match (← Mutation.container).2 with
      | none => throw (.refused "no clone")
      | some other =>
        onArray (FixedArray.release provider)
        Mutation.setContainer (other, none)
        pure none)
  | "span" => pure (arrayQuery fun array => array.items.map fun items => .array (items.map codec.write))
  | "all" =>
    pure (do
      let items ← Mutation.check (← Mutation.container).1.items
      let shown ← readDuring (listedItems step ((List.range items.length).zip items))
      return some (.array (shown.map fun (index, item) => .array [.nat index, codec.write item])))
  | other => refuse ("unknown array step " ++ Quoted.quote other)

/-- Answers one step of a fixed array script. -/
def arrayAnswer (codec : Codec α) (provider : Provider Allocator) (state : Accounted (ArrayPair α))
    (step : Json) : Accounted (ArrayPair α) × Json :=
  let reportsBefore := state.allocator.journal.reports.size
  let (outcome, state) := match arrayAction codec provider step with
    | .ok action => state.run action
    | .error failure => (.error failure, state)
  let fields := match outcome with
    | .ok result => match arrayFields codec state.container.1 with
      | .ok fields => fields ++ (result.map fun value => ("result", value)).toList
      | .error failure => failure.fields
    | .error failure => failure.fields
  (state, .object (fields ++ state.memFields reportsBefore))

/-- Makes the fixed array a script starts with. -/
def arrayStart (codec : Codec α) (provider : Provider Allocator) (init : Json) :
    Outcome (Mutation Allocator (ArrayPair α) Unit) := do
  match ← textField init "kind" "size" with
  | "size" =>
    let size ← match fieldOf init "n" with
      | none => pure 0
      | some _ => limitedField init "n" countLimit
    pure (onArray (FixedArray.init provider size.toInt))
  | "filled" =>
    let size ← limitedField init "n" countLimit
    let item ← codec.read ((fieldOf init "value").getD .null)
    pure (onArray (do FixedArray.init provider size.toInt; FixedArray.fill item))
  | "from" =>
    let items ← readEach codec.read (← valueList init "values")
    pure (onArray (do
      FixedArray.init provider items.length
      let array ← Mutation.container
      let _ ← Mutation.check array.items
      Mutation.setContainer (array.overwrite items)))
  | other => refuse ("unknown init kind " ++ Quoted.quote other)

/-- Answers a fixed array request with elements of one codec. -/
def arrayScriptWith (codec : Codec α) (request : Json) : Outcome Json := do
  let allocator ← readAccounting request
  let provider := allocatorProvider codec.element "Array"
  let start ← arrayStart codec provider (← objectField request "init")
  let blank : FixedArray α := FixedArray.blank codec.element.size allocator.isSome
  let state : Accounted (ArrayPair α) :=
    { container := (blank, none), allocator := allocator.getD default, present := allocator.isSome }
  let (outcome, state) := state.run start
  let () ← outcome
  let initFields ← arrayFields codec state.container.1
  let steps ← scriptSteps request
  let (_, answers) := runScript (arrayAnswer codec provider) state steps
  pure (.object [("init", .object (initFields ++ state.memFields 0)), ("steps", .array answers)])

/-- Answers an `array` request. -/
def arrayScript (request : Json) : Outcome Json := do
  match ← textField request "elem" "int" with
  | "int" => arrayScriptWith wordCodec request
  | "string" => arrayScriptWith textCodec request
  | "big" => arrayScriptWith blockCodec request
  | other => refuse ("unknown elem " ++ Quoted.quote other)

end HeapKit.Request
