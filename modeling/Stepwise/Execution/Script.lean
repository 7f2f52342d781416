import Stepwise.Execution.World
import Stepwise.Reference.Resolution
import Stepwise.Script.Evaluation
import Stepwise.Workflow.Config

/-!
Script steps: the script sees the inputs of the step, the outputs of the steps that are done and the
inputs of the run, and has to produce a mapping.
-/

namespace Stepwise.ScriptStep

/-- The names that a script sees. What the script comes to is filed as `result`, and a name that is this
one in other forms of its letters is taken for the same place, which is empty while the script runs. -/
def scope (ctx : Context) (inputs : Fields) : Fields :=
  (inputs.filter fun f => !Script.isResultForm f.1) ++
    [("steps", .ofFields ctx.results), ("workflow_inputs", .dict ctx.inputs)]

/-- The inputs that use a name of the scope. -/
def reserved (inputs : Fields) : List String :=
  StepError.reservedNames.filter (Fields.has inputs)

/-- The entries of the mapping that a script step produces. -/
def run (ctx : Context) (config : ScriptConfig) (inputs : Fields) :
    Except StepError Entries := do
  if Text.allBlank config.script then throw .scriptMissing
  let shadowed := reserved inputs
  if !shadowed.isEmpty then throw (.reservedInputs shadowed)
  match Script.run config.script (scope ctx inputs) with
  | .ok (.dict entries) => return entries
  | .ok v => throw (.scriptResult v.typeName)
  | .error f => throw (.script f)

end Stepwise.ScriptStep
