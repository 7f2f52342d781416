import Stepwise.Schema.Reader
import Stepwise.Workflow.Loading

/-!
Runs: what is kept of a workflow from the moment it is started.
-/

namespace Stepwise

inductive RunStatus where
  | running
  | completed
  | failed
  | cancelled
  deriving DecidableEq, Repr, Inhabited

namespace RunStatus

def name : RunStatus → String
  | running => "running"
  | completed => "completed"
  | failed => "failed"
  | cancelled => "cancelled"

def options : List (String × RunStatus) :=
  [running, completed, failed, cancelled].map fun s => (s.name, s)

def ofName? (s : String) : Option RunStatus := (options.find? (·.1 == s)).map (·.2)

theorem ofName?_name (s : RunStatus) : ofName? s.name = some s := by cases s <;> decide

end RunStatus

/-- Why a run has failed. -/
structure RunError where
  /-- The step that failed, or `RunError.wholeWorkflow`. -/
  step : String
  message : String
  time : Moment
  /-- Where the error came from, if it was not foreseen. -/
  stack? : Option String := none
  deriving DecidableEq, Repr, Inhabited

/-- Stands for a step in the errors of a workflow as a whole. -/
def RunError.wholeWorkflow : String := "workflow"

structure Run where
  id : String
  /-- The id of the workflow. -/
  workflow : String
  status : RunStatus := .running
  started : Moment
  ended? : Option Moment := none
  /-- The outputs of the steps, by their ids. -/
  results : Fields := []
  errors : List RunError := []
  deriving Inhabited

namespace Run

/-- Microseconds from the start to the end. -/
def elapsed? (r : Run) : Option Int := r.ended?.map fun ended => ended.instant - r.started.instant

/-- Whole milliseconds of a time in microseconds. It is taken in seconds first, so that the rounding
of seconds to binary64 shows. -/
def milliseconds (micros : Int) : Int :=
  let seconds := Binary64.ofRatio (micros < 0) micros.natAbs 1000000
  (seconds.mul (Binary64.ofInt 1000)).toInt?.getD 0

/-- Whole milliseconds from the start to the end. -/
def duration? (r : Run) : Option Int := r.elapsed?.map milliseconds

end Run

/-! ### Updates -/

/-- New values for some of what is kept of a run. -/
structure RunUpdate where
  status? : Option RunStatus := none
  workflow? : Option String := none
  ended? : Option Moment := none
  results? : Option Fields := none
  errors? : Option (List RunError) := none
  deriving Inhabited

/-- The run with the new values in place. The id and the start stay. -/
def Run.update (r : Run) (u : RunUpdate) : Run :=
  { r with
    status := u.status?.getD r.status
    workflow := u.workflow?.getD r.workflow
    ended? := u.ended?.or r.ended?
    results := u.results?.getD r.results
    errors := u.errors?.getD r.errors }

@[simp]
theorem Run.update_id (r : Run) (u : RunUpdate) : (r.update u).id = r.id := rfl

/-! ### Loading -/

open Schema in
/-- Reads a run that starts at a moment. -/
def Run.reader (started : Moment) : Reader Run :=
  record (.named "WorkflowExecution") fun entries =>
    (fun id workflow status => { id, workflow, status, started }) <$> required entries "id" text <*>
      required entries "workflow_id" text <*>
      field entries "status" .running (choice RunStatus.options)

/-- A run from a value. -/
def Run.load (started : Moment) (v : Value) : Checked Run :=
  (Run.reader started v).checked "WorkflowExecution"

end Stepwise
