import Stepwise.Execution.Plan
import Stepwise.Json.Writing
import Stepwise.Reference.Template
import Stepwise.Workflow.Graph

/-!
Admission: what a workflow has to satisfy before it is kept. Its steps are well configured at every
depth, its graph is sound, and no step refers to the outputs of a step that it does not depend on.
-/

namespace Stepwise

/-- Why a workflow is refused. -/
inductive Refusal where
  | empty
  | tooManySteps (count : Nat)
  | duplicate (step : String)
  | badKind (step kind : String)
  | configSize (step : String) (size : Nat)
  | badConfig (step kind report : String)
  | reservedInputs (step : String) (names : List String)
  | definition (error : DefinitionError)
  | undeclared (step raw : String) (head : Option String)
  /-- A fault of an operation on values. -/
  | fault (fault : Fault)
  deriving DecidableEq, Repr, Inhabited

namespace Refusal

/-- The greatest number of steps of a workflow. -/
def maxSteps : Nat := 100

/-- The greatest size of the JSON text of a configuration, in bytes. -/
def maxConfigSize : Nat := 65536

def message : Refusal → String
  | empty => "Workflow must contain at least one step"
  | tooManySteps n => s!"Workflow exceeds maximum step limit: {n} > {maxSteps}"
  | duplicate step => "Duplicate step ID: " ++ step
  | badKind step kind =>
    s!"Step '{step}' has invalid type: '{kind}'. Allowed types: " ++
      ", ".intercalate (StepKind.all.map StepKind.name)
  | configSize step size =>
    s!"Step '{step}' config exceeds size limit: {size} > {maxConfigSize} bytes"
  | badConfig step kind report => s!"Step '{step}': " ++ (StepError.badConfig kind report).message
  | reservedInputs step names =>
    s!"Step '{step}' uses reserved input names: " ++ ", ".intercalate names
  | definition e => e.message
  | undeclared step raw head =>
    let name := head.getD "None"
    s!"Step '{step}' references '{raw}' but does not depend on '{name}'"
  | fault f => f.message

end Refusal

namespace Admission

/-- An operation on values as a part of an admission. -/
def checked {α : Type} : Checked α → Except Refusal α
  | .ok a => .ok a
  | .error f => .error (.fault f)

def checkSize (s : Step) : Except Refusal Unit := do
  let text ← checked (Json.render .lenientPlain (.ofFields s.config))
  let size := text.utf8ByteSize
  if Refusal.maxConfigSize < size then throw (.configSize s.id size)

def checkNames (s : Step) : Except Refusal Unit := do
  let names := StepError.reservedNames.filter (Fields.has s.inputs)
  if !names.isEmpty then throw (.reservedInputs s.id names)

/-- Checks a step, and the sub-steps of a group. -/
def checkPlan (s : Step) : Plan → Except Refusal Unit
  | .unknown kind => throw (.badKind s.id kind)
  | .misfit kind report => do
    checkSize s
    throw (.badConfig s.id kind.name report)
  | .remote _ => checkSize s
  | .completion _ => checkSize s
  | .script _ => do
    checkSize s
    checkNames s
  | .group subs => do
    checkSize s
    checkPlans subs
where
  checkPlans : List (Step × Plan) → Except Refusal Unit
    | [] => .ok ()
    | (sub, plan) :: rest => do
      checkPlan sub plan
      checkPlans rest

/-- Checks a step by itself. -/
def checkStep (s : Step) : Except Refusal Unit := checkPlan s (.ofStep s)

/-- Checks steps in order; `seen` holds the ids before them. -/
def checkSteps (seen : List String) : List Step → Except Refusal Unit
  | [] => .ok ()
  | s :: rest => do
    if seen.contains s.id then throw (.duplicate s.id)
    checkStep s
    checkSteps (s.id :: seen) rest

/-- Does a reference stay among the ancestors of a step? -/
def isDeclared (ancestors : List String) (r : Reference) : Bool :=
  match r.scope, r.head? with
  | .input, _ => true
  | .steps, some head => ancestors.contains head
  | .steps, none => false

/-- Checks the references in an input of a step. -/
def checkInput (step : String) (ancestors : List String) (v : Value) : Except Refusal Unit := do
  let references ← checked (Reference.allIn v)
  match references.find? fun r => !isDeclared ancestors r with
  | some r => throw (.undeclared step r.raw r.head?)
  | none => return ()

/-- Checks the references in all inputs of all steps. -/
def checkReferences (ancestors : List (String × List String)) :
    List Step → Except Refusal Unit
  | [] => .ok ()
  | s :: rest => do
    let known := DependencyGraph.dependenciesIn ancestors s.id
    s.inputs.forM fun f => checkInput s.id known f.2
    checkReferences ancestors rest

/-- Checks a workflow; the first problem is reported. -/
def check (w : Workflow) : Except Refusal Unit := do
  if w.steps.isEmpty then throw .empty
  if Refusal.maxSteps < w.steps.length then throw (.tooManySteps w.steps.length)
  checkSteps [] w.steps
  match DependencyGraph.ofWorkflow w with
  | .error e => throw (.definition e)
  | .ok g => checkReferences (← checked g.ancestors) w.steps

end Admission

end Stepwise
