import Stepwise.Execution.History
import Stepwise.Execution.Levels
import Stepwise.Repository.Stored
import Stepwise.Value.Convert

/-!
The engine: it starts runs of stored workflows, takes them through their levels and keeps what
became of them in the history.
-/

namespace Stepwise

/-- Why a workflow cannot be started. -/
inductive StartError where
  | definition (cause : DefinitionError)
  | repository (cause : RepositoryError)
  deriving DecidableEq, Repr, Inhabited

namespace StartError

def message : StartError → String
  | definition e => e.message
  | repository e => e.reported

/-- Only errors that no definition accounts for are traced. -/
def stack? : StartError → Option String
  | definition _ => none
  | repository e => some e.reported

end StartError

/-- What a run is started with. -/
structure Order where
  /-- The id of the run. -/
  id : String
  /-- The id of the workflow. -/
  workflow : String
  inputs : Value := .null
  started : Moment
  ended : Moment
  deriving Inhabited

namespace Engine

/-- Looks a definition up. -/
abbrev Source := String → Except RepositoryError (Option Workflow)

/-- The first step that nothing can execute. -/
def unexecutable? (w : World) (definition : Workflow) : Option Step :=
  definition.steps.find? fun s => !w.executes s.kind

/-- The definition of a workflow with its graph, if it can be run at all. -/
def prepare (w : World) (source : Source) (id : String) :
    Except StartError (Workflow × DependencyGraph) := do
  let definition ← match source id with
    | .error e => throw (.repository e)
    | .ok none => throw (.definition (.unknownWorkflow id))
    | .ok (some definition) => pure definition
  let graph ← match DependencyGraph.ofWorkflow definition with
    | .error e => throw (.definition e)
    | .ok graph => pure graph
  match unexecutable? w definition with
  | some s => throw (.definition (.noExecutor s.kind))
  | none => return (definition, graph)

/-- The inputs of a run. Nothing and what counts as nothing is no inputs. -/
def inputsOf (v : Value) : Checked Entries := if v.isTrue then v.toEntries else .ok []

variable {m : Type → Type} [Monad m]

/-- Takes a workflow through its levels. -/
def levels (attempt : Levels.Runner m) (run : String) (inputs : Entries) (definition : Workflow)
    (graph : DependencyGraph) : m (Checked Ending) :=
  Levels.run attempt { inputs, run } (graph.stepsByLevel definition)

/-- What is recorded of a failure. -/
def failure (time : Moment) (step message : String) (stack? : Option String := none) : RunUpdate :=
  { status? := some .failed
    ended? := some time
    errors? := some [{ step, message, time, stack? }] }

/-- What is recorded of a run that ends. -/
def closing (time : Moment) : Ending → RunUpdate
  | .completed results =>
    { status? := some .completed, ended? := some time, results? := some results }
  | .failed step message => failure time step message

/-- What becomes of a run whose steps are attempted in some way. A fault leaves it open. -/
def outcomeBy (attempt : Levels.Runner m) (w : World) (source : Source) (order : Order) :
    m (Checked RunUpdate) :=
  match prepare w source order.workflow with
  | .error e => pure (.ok (failure order.ended RunError.wholeWorkflow e.message e.stack?))
  | .ok (definition, graph) =>
    match inputsOf order.inputs with
    | .error f => pure (.error f)
    | .ok inputs => do
      let ending ← levels attempt order.id inputs definition graph
      return ending.map (closing order.ended)

/-- What becomes of a run in a world. -/
def outcome (w : World) : Source → Order → Traced (Checked RunUpdate) :=
  outcomeBy (fun ctx s => s.attempt w ctx) w

/-- The run that an order opens. -/
def opened (order : Order) : Run :=
  { id := order.id, workflow := order.workflow, started := order.started }

/-- Runs a workflow: the run is stored when it starts and updated when it ends. The run itself is
given back even if it has left the history. -/
def runBy (attempt : Levels.Runner m) (w : World) (source : Source) (h : History) (order : Order) :
    m (Checked Run × History) := do
  let h := h.store (opened order)
  match ← outcomeBy attempt w source order with
  | .error f => return (.error f, h)
  | .ok update => return (.ok ((opened order).update update), h.update order.id update)

/-- Runs a workflow in a world. -/
def run (w : World) : Source → History → Order → Traced (Checked Run × History) :=
  runBy (fun ctx s => s.attempt w ctx) w

end Engine

end Stepwise
