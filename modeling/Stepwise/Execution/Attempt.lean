import Stepwise.Execution.Completion
import Stepwise.Execution.Plan
import Stepwise.Execution.Remote
import Stepwise.Execution.Script

/-!
Attempts at steps. An attempt resolves the inputs of a step, executes it as its plan says, and
records its outputs or the message of its failure.
-/

namespace Stepwise

inductive Outcome where
  | completed (outputs : Fields)
  | failed (message : String)
  deriving Inhabited

/-- What is recorded of an attempt. -/
structure StepResult where
  step : String
  outcome : Outcome
  deriving Inhabited

namespace StepResult

/-- The message of a failed attempt. -/
def failure? (r : StepResult) : Option String :=
  match r.outcome with
  | .failed message => some message
  | .completed _ => none

/-- The outputs of a completed attempt. -/
def outputs (r : StepResult) : Fields :=
  match r.outcome with
  | .completed outputs => outputs
  | .failed _ => []

/-- The result of a step that has put out entries. Outputs without a name cannot be recorded, and of
two outputs whose keys come to one name the later counts. -/
def ofEntries (step : String) (entries : Entries) : Checked StepResult := do
  let loaded := (Schema.readMembers entries).under (.member "outputs")
  return ⟨step, .completed (Fields.merge [] (← loaded.checked "StepResult"))⟩

/-- The fault of the first attempt that could not be recorded, or else all results. -/
def all : List (Checked StepResult) → Checked (List StepResult)
  | [] => .ok []
  | x :: rest => do
    let r ← x
    return r :: (← all rest)

end StepResult

/-- Can steps of the named kind be executed? -/
def World.executes (w : World) (kind : String) : Bool :=
  match StepKind.ofName? kind with
  | some k => w.kinds.contains k
  | none => false

/-- The record of an execution that may fail. -/
def settle (step : String) (x : Asked Entries) : Traced (Checked StepResult) :=
  let done := x.run
  ⟨match done.value with
    | .ok entries => StepResult.ofEntries step entries
    | .error e => .ok ⟨step, .failed e.reported⟩, done.trace⟩

/-- An attempt at a step, where `execute` does what the step is for. -/
def attempt (w : World) (ctx : Context) (step : Step) (execute : Fields → Asked Entries) :
    Traced (Checked StepResult) :=
  settle step.id do
    if !w.executes step.kind then throw (.noExecutor step.kind)
    let inputs ← Asked.checked (Fields.resolve ctx step.inputs)
    execute inputs

namespace Group

/-- A sub-step with the inputs of its group under its own. -/
def overlaid (inputs : Fields) (sub : Step) : Step :=
  { sub with inputs := Fields.merge inputs sub.inputs }

/-- The failures among results, with the ids of their steps. -/
def failures (results : List StepResult) : List (String × String) :=
  results.filterMap fun r => r.failure?.map fun message => (r.step, message)

/-- The outputs of all sub-steps, later ones over earlier ones. What is overwritten is noted. -/
def merge (group : String) (merged : Fields) : List StepResult → Traced Fields
  | [] => { value := merged }
  | r :: rest =>
    let keys := Fields.shared merged r.outputs
    let note : Trace := if keys.isEmpty then {} else { overwrites := [⟨group, r.step, keys⟩] }
    let done := merge group (Fields.merge merged r.outputs) rest
    ⟨done.value, note ++ done.trace⟩

/-- The outputs of a group whose sub-steps have been attempted. -/
def conclude (group : String) (attempts : List (Checked StepResult)) : Asked Fields := do
  let results ← Asked.checked (StepResult.all attempts)
  let failed := failures results
  if !failed.isEmpty then throw (.subSteps failed)
  ExceptT.lift (merge group [] results)

end Group

/-- Fields as entries. -/
def Fields.entries (fields : Fields) : Entries := fields.map fun f => (.text f.1, f.2)

/-- What a step puts out as its plan says, from its resolved inputs. -/
def Plan.execute (w : World) (ctx : Context) (step : Step) (inputs : Fields) :
    Plan → Asked Entries
  | .unknown kind => throw (.noExecutor kind)
  | .misfit kind report => throw (.badConfig kind.name report)
  | .remote c => Fields.entries <$> Remote.call w c inputs
  | .completion c => Fields.entries <$> Completion.request w ctx step.outputs c inputs
  | .script c => liftM (ScriptStep.run ctx c inputs)
  | .group subs => do
    if subs.isEmpty then throw .groupEmpty
    if !w.runsGroups then throw .runnerMissing
    let attempts ← ExceptT.lift (attempts w ctx inputs subs)
    Fields.entries <$> Group.conclude step.id attempts
where
  attempts (w : World) (ctx : Context) (inputs : Fields) :
      List (Step × Plan) → Traced (List (Checked StepResult))
    | [] => pure []
    | (sub, plan) :: rest => do
      let sub := Group.overlaid inputs sub
      let first ← attempt w ctx sub fun own => Plan.execute w ctx sub own plan
      let others ← attempts w ctx inputs rest
      return first :: others

/-- An attempt at a step in the context of a run. -/
def Step.attempt (w : World) (ctx : Context) (step : Step) : Traced (Checked StepResult) :=
  Stepwise.attempt w ctx step fun inputs => (Plan.ofStep step).execute w ctx step inputs

end Stepwise
