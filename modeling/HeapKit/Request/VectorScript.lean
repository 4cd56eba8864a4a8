import HeapKit.Request.Accounting
import HeapKit.Request.Elements
import HeapKit.Container.Vector

/-!
# Vector scripts

A vector of 64-bit integers, strings or blocks, made in one of five ways and
then changed and queried step by step. A script can also keep one copy of the
vector, compare against it, and continue with it in place of the vector.

Every answer shows the vector after the step: its length, capacity, whether its
elements are inline, whether it is empty, and its elements; queries add a
`result`. Positions and sizes must be given, lists of values must be lists,
and no step may ask for more than 100000 elements. A listing reads its `limit`
only when there is something to list; `ptr_set` finds its element before it
reads the value, so a bad position wins over a bad value.
-/

namespace HeapKit.Request

open HeapKit.Memory

variable {α : Type} [Inhabited α] [BEq α]

/-- The vector and the copy the script keeps, if any. -/
abbrev VectorPair (α : Type) := Vector α × Option (Vector α)

/-- The fields that show a vector. -/
def vectorFields (codec : Codec α) (vector : Vector α) : Outcome (List (String × Json)) := do
  let items ← ofBounds vector.items
  pure [("len", .int vector.length), ("cap", .nat vector.capacity), ("inline", .bool vector.isInline),
    ("empty", .bool (vector.length == 0)), ("items", .array (items.map codec.write))]

/-- Runs a vector operation on the vector of the pair. -/
def onVector {β : Type} (operation : Mutation Allocator (Vector α) β) :
    Mutation Allocator (VectorPair α) β :=
  Mutation.focus (fun (vector, other) => (vector, fun vector => (vector, other))) operation

/-- A query of the vector as a result. -/
def vectorQuery (query : Vector α → Except BoundsError Json) :
    Mutation Allocator (VectorPair α) (Option Json) := do
  let vector := (← Mutation.container).1
  return some (← Mutation.check (query vector))

/-- The action of one step of a vector script. -/
def vectorAction (codec : Codec α) (provider : Provider Allocator) (step : Json) :
    Outcome (Mutation Allocator (VectorPair α) (Option Json)) := do
  let value := fun (_ : Unit) => codec.read ((fieldOf step "value").getD .null)
  let values := fun (_ : Unit) => do readEach codec.read (← valueList step "values")
  match ← stepName step with
  | "append" =>
    let item ← value ()
    pure (do onVector (Vector.push provider item); pure none)
  | "prepend" =>
    let item ← value ()
    pure (do onVector (Vector.insert provider 0 [item]); pure none)
  | "append_non_dup" =>
    let item ← value ()
    pure (do onVector (Vector.pushNew provider item); pure none)
  | "append_get_index" =>
    let item ← value ()
    pure (do
      let position := (← Mutation.container).1.length
      onVector (Vector.push provider item)
      pure (some (.int position)))
  | "append_range" =>
    let count ← limitedField step "count" countLimit
    let first ← numberField step "value"
    pure (do
      for offset in List.range count.toInt.toNat do
        onVector (Vector.push provider (codec.ofInt (first + Int64.ofNat offset).toInt))
      pure none)
  | "extend" =>
    let items ← values ()
    pure (do onVector (Vector.append provider items); pure none)
  | "prepend_slice" =>
    let items ← values ()
    pure (do onVector (Vector.insert provider 0 items); pure none)
  | "insert" =>
    let position ← requiredInt step "i"
    let items ← values ()
    pure (do onVector (Vector.insert provider position.toInt items); pure none)
  | "remove" =>
    let position ← requiredInt step "i"
    pure (do onVector (Vector.remove position.toInt); pure none)
  | "remove_reorder" =>
    let position ← requiredInt step "i"
    pure (do onVector (Vector.removeSwap position.toInt); pure none)
  | "pop_last" => pure (do pure (some (codec.write (← onVector Vector.pop))))
  | "first" => pure (vectorQuery fun vector => vector.first.map codec.write)
  | "last" => pure (vectorQuery fun vector => vector.last.map codec.write)
  | "at" =>
    let position ← requiredInt step "i"
    pure (vectorQuery fun vector => (vector.get position.toInt).map codec.write)
  | "set" =>
    let position ← requiredInt step "i"
    let item ← value ()
    pure (do
      let vector ← Mutation.check ((← Mutation.container).1.set position.toInt item)
      Mutation.modifyContainer fun pair => (vector, pair.2)
      pure none)
  | "ptr_set" =>
    let position ← requiredInt step "i"
    pure (do
      let _ ← Mutation.check ((← Mutation.container).1.get position.toInt)
      let item ← readDuring (value ())
      let vector ← Mutation.check ((← Mutation.container).1.set position.toInt item)
      Mutation.modifyContainer fun pair => (vector, pair.2)
      pure none)
  | "reserve" =>
    let count ← limitedField step "n" countLimit
    pure (do onVector (Vector.reserve provider count.toInt); pure none)
  | "resize" =>
    let count ← limitedField step "n" countLimit
    pure (do onVector (Vector.resize provider count.toInt); pure none)
  | "clear" => pure (do onVector Vector.clear; pure none)
  | "clear_and_shrink" | "release" => pure (do onVector (Vector.release provider); pure none)
  | "clone" =>
    pure (do
      match (← Mutation.container).2 with
      | some other =>
        let released ← Mutation.focus (fun pair => (other, fun _ => pair))
          (do Vector.release provider; Mutation.container)
        Mutation.modifyContainer fun pair => (pair.1, some released)
      | none => pure ()
      let copy ← onVector (Vector.copy provider)
      Mutation.modifyContainer fun pair => (pair.1, some copy)
      match vectorFields codec copy with
      | .ok fields => pure (some (.object fields))
      | .error failure => throw (.abort failure.message))
  | "swap_clone" =>
    pure (do
      match (← Mutation.container).2 with
      | none => throw (.refused "no clone")
      | some other =>
        onVector (Vector.release provider)
        Mutation.setContainer (other, none)
        pure none)
  | "equal" =>
    let items ← values ()
    let other : Vector α := { (Vector.empty codec.element.size false : Vector α) with
      storage := Vector.fresh items (max items.length (inlineCapacity codec.element.size)),
      length := items.length }
    pure (vectorQuery fun vector => (vector.equal other).map Json.bool)
  | "equal_clone" =>
    pure (do
      match (← Mutation.container).2 with
      | none => throw (.refused "no clone")
      | some other => vectorQuery fun vector => (vector.equal other).map Json.bool)
  | "index_of" =>
    let item ← value ()
    pure (vectorQuery fun vector => (vector.indexOf item).map Json.int)
  | "contains" =>
    let item ← value ()
    pure (vectorQuery fun vector => (vector.indexOf item).map fun position => .bool (0 ≤ position))
  | "span" => pure (vectorQuery fun vector => vector.items.map fun items => .array (items.map codec.write))
  | "values" =>
    pure (do
      let items ← Mutation.check (← Mutation.container).1.items
      let shown ← readDuring (listedItems step items)
      return some (.array (shown.map codec.write)))
  | "all" =>
    pure (do
      let items ← Mutation.check (← Mutation.container).1.items
      let shown ← readDuring (listedItems step ((List.range items.length).zip items))
      return some (.array (shown.map fun (index, item) => .array [.nat index, codec.write item])))
  | other => refuse ("unknown vector step " ++ Quoted.quote other)

/-- Answers one step of a vector script. -/
def vectorAnswer (codec : Codec α) (provider : Provider Allocator) (state : Accounted (VectorPair α))
    (step : Json) : Accounted (VectorPair α) × Json :=
  let reportsBefore := state.allocator.journal.reports.size
  let (outcome, state) := match vectorAction codec provider step with
    | .ok action => state.run action
    | .error failure => (.error failure, state)
  let fields := match outcome with
    | .ok result => match vectorFields codec state.container.1 with
      | .ok fields => fields ++ (result.map fun value => ("result", value)).toList
      | .error failure => failure.fields
    | .error failure => failure.fields
  (state, .object (fields ++ state.memFields reportsBefore))

/-- Makes the vector a script starts with. -/
def vectorStart (codec : Codec α) (provider : Provider Allocator) (accounted : Bool) (init : Json) :
    Outcome (Mutation Allocator (VectorPair α) Unit) := do
  let count := fun (_ : Unit) => do
    let count ← limitedField init "n" countLimit
    pure count.toInt
  let start := fun (vector : Vector α) (operation : Mutation Allocator (Vector α) Unit) =>
    (do Mutation.setContainer (vector, none); onVector operation : Mutation Allocator (VectorPair α) Unit)
  let empty : Vector α := Vector.empty codec.element.size accounted
  match ← textField init "kind" "new" with
  | "new" => pure (start empty (pure ()))
  | "zero" => pure (start (Vector.empty codec.element.size false) (pure ()))
  | "size" =>
    let size ← count ()
    pure (start empty (Vector.resize provider size))
  | "filled" =>
    let size ← count ()
    let item ← codec.read ((fieldOf init "value").getD .null)
    pure (start empty (do Vector.resize provider size; Vector.fill item))
  | "from" =>
    let items ← readEach codec.read (← valueList init "values")
    pure (start empty (Vector.append provider items))
  | other => refuse ("unknown init kind " ++ Quoted.quote other)

/-- Answers a vector request with elements of one codec. -/
def vectorScriptWith (codec : Codec α) (request : Json) : Outcome Json := do
  let allocator ← readAccounting request
  let provider := allocatorProvider codec.element "Vector"
  let start ← vectorStart codec provider allocator.isSome (← objectField request "init")
  let state : Accounted (VectorPair α) :=
    { container := (Vector.empty codec.element.size false, none), allocator := allocator.getD default,
      present := allocator.isSome }
  let (outcome, state) := state.run start
  let () ← outcome
  let initFields ← vectorFields codec state.container.1
  let steps ← scriptSteps request
  let (_, answers) := runScript (vectorAnswer codec provider) state steps
  pure (.object [("init", .object (initFields ++ state.memFields 0)), ("steps", .array answers)])

/-- Answers a `vector` request. -/
def vectorScript (request : Json) : Outcome Json := do
  match ← textField request "elem" "int" with
  | "int" => vectorScriptWith wordCodec request
  | "string" => vectorScriptWith textCodec request
  | "big" => vectorScriptWith blockCodec request
  | other => refuse ("unknown elem " ++ Quoted.quote other)

end HeapKit.Request
