import Stepwise.Execution.Attempt
import Stepwise.Workflow.Graph

/-!
Runs through the levels of a graph. The steps of a level are all attempted in the same context, and
the next level begins when they are done. The first level with a failure is the last one, and none
of the outputs are kept then.
-/

namespace Stepwise

/-- How a run through the levels ends. -/
inductive Ending where
  /-- The outputs of all steps, by their ids. -/
  | completed (results : Fields)
  | failed (step message : String)
  deriving Inhabited

namespace Levels

/-- What an attempt at a step gives; `m` is what attempts may do beside. -/
abbrev Runner (m : Type → Type) := Context → Step → m (Checked StepResult)

variable {m : Type → Type} [Monad m]

/-- Attempts steps in the same context. -/
def attemptAll (attempt : Runner m) (ctx : Context) : List Step → m (List (Checked StepResult))
  | [] => pure []
  | s :: rest => do
    let first ← attempt ctx s
    let others ← attemptAll attempt ctx rest
    return first :: others

/-- The message of a failure. -/
def failureText (message : String) : String := if message = "" then "Step failed" else message

/-- The first failure among results. -/
def firstFailure? (results : List StepResult) : Option (String × String) :=
  results.findSome? fun r => r.failure?.map fun message => (r.step, failureText message)

/-- The context with the outputs of results. -/
def recorded (ctx : Context) (results : List StepResult) : Context :=
  { ctx with
    results := results.foldl (fun acc r => Fields.set acc r.step (.ofFields r.outputs)) ctx.results }

/-- Runs through levels, each given by its steps. -/
def run (attempt : Runner m) (ctx : Context) : List (List Step) → m (Checked Ending)
  | [] => pure (.ok (.completed ctx.results))
  | steps :: rest => do
    match StepResult.all (← attemptAll attempt ctx steps) with
    | .error f => return .error f
    | .ok results =>
      match firstFailure? results with
      | some (step, message) => return .ok (.failed step message)
      | none => run attempt (recorded ctx results) rest

end Levels

/-- The steps of a workflow, level by level. -/
def DependencyGraph.stepsByLevel (g : DependencyGraph) (w : Workflow) : List (List Step) :=
  (List.range g.height).map (g.stepsAt w)

end Stepwise
