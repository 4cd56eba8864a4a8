import HeapKit.Request.Decode
import HeapKit.Fault

/-!
# Scripts

Most requests carry a script: a list of steps, each an object whose `do` field
names what it does. The script is checked as a whole before it runs; each step
is then answered on its own, and a step that fails answers with its failure
while the script goes on.
-/

namespace HeapKit.Request

/-- Checks that every step is an object. -/
def checkSteps : Nat → List Json → Outcome (List Json)
  | _, [] => .ok []
  | position, step :: rest =>
    match step with
    | .object _ => do
      let tail ← checkSteps (position + 1) rest
      .ok (step :: tail)
    | _ => refuse s!"steps[{position}] is not an object"

/-- The steps of a script request. -/
def scriptSteps (request : Json) : Outcome (List Json) := do
  let steps ← requiredListField request "steps"
  checkSteps 0 steps

/-- The `do` name of a step, which every step must give. -/
def stepName (step : Json) : Outcome String := requiredText step "do"

/-- Runs each step on the state left by the one before, collecting the answers. -/
def runScript {σ : Type} (perform : σ → Json → σ × Json) : σ → List Json → σ × List Json
  | state, [] => (state, [])
  | state, step :: rest =>
    let (next, answer) := perform state step
    let (final, answers) := runScript perform next rest
    (final, answer :: answers)

/-- The answer of a step that produced `fields`, or its failure. -/
def stepAnswer (outcome : Outcome (List (String × Json))) : Json :=
  match outcome with
  | .ok fields => .object fields
  | .error failure => .object failure.fields

/-- The most elements or entries a request may ask a container for at once. -/
def countLimit : Int := 100000

/-- The first `limit` items, or all of them for a limit of zero or less. -/
def limited {β : Type} (limit : Int) (items : List β) : List β :=
  if limit ≤ 0 then items else items.take limit.toNat

/-- The items a listing step shows: the first `limit` of them, or all for a
limit of zero or less. The limit is read only when there are items to show. -/
def listedItems {β : Type} (step : Json) (items : List β) : Outcome (List β) :=
  if items.isEmpty then .ok []
  else do
    let limit ← intField step "limit" 0
    pure (limited limit.toInt items)

/-- The `limit` of a listing step: 1000 when absent, at most 10000. -/
def limitField (step : Json) : Outcome Nat := do
  let limit ← intField step "limit" 1000
  if 0 ≤ limit.toInt && limit.toInt ≤ 10000 then .ok limit.toInt.toNat
  else refuse "limit must be 0..10000"

/-- A bound check's failure as a step failure. -/
def ofBounds {α : Type} (outcome : Except BoundsError α) : Outcome α :=
  outcome.mapError fun error => .runtime error.message

/-- A fault as a step failure. -/
def ofFault : Fault → Failure
  | .bounds error => .runtime error.message
  | .missing => .runtime missingObjectMessage
  | .abort message => .abort message
  | .refused message => .badInput message

end HeapKit.Request
