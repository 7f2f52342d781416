import Stepwise.Execution.Failure
import Stepwise.Graph.Walk
import Stepwise.Workflow.Basic

/-!
The graph of a workflow: which steps depend on which, and the level of each step. A step without
dependencies is on level 0, any other one level above its deepest dependency.
-/

namespace Stepwise

structure DependencyGraph where
  nodes : List String
  /-- The dependencies of each step, in the order of the first steps of each id. -/
  edges : List (String × List String)
  levels : List (String × Nat)
  deriving DecidableEq, Repr, Inhabited

namespace DependencyGraph

/-- Files dependencies under an id; an id that is there already keeps its place. -/
def fileEdges (edges : List (String × List String)) (id : String) (dependencies : List String) :
    List (String × List String) :=
  if edges.any (·.1 == id) then edges.map fun e => if e.1 == id then (id, dependencies) else e
  else edges ++ [(id, dependencies)]

/-- The dependencies of every id; of steps that share an id the last counts. -/
def edgesOf (w : Workflow) : List (String × List String) :=
  w.steps.foldl (fun edges s => fileEdges edges s.id s.dependencies) []

def dependenciesIn (edges : List (String × List String)) (id : String) : List String :=
  ((edges.find? (·.1 == id)).map (·.2)).getD []

/-- The first dependency that names no step. -/
def dangling? (edges : List (String × List String)) : Option (String × String) :=
  edges.findSome? fun e =>
    (e.2.find? fun d => !edges.any (·.1 == d)).map fun d => (e.1, d)

def levelIn? (levels : List (String × Nat)) (id : String) : Option Nat :=
  (levels.find? (·.1 == id)).map (·.2)

/-- The level above the deepest of some dependencies. -/
def levelAbove (levels : List (String × Nat)) (dependencies : List String) : Nat :=
  (dependencies.map fun d => (levelIn? levels d).getD 0 + 1).foldl max 0

/-- The level of each id, in an order in which dependencies come first. -/
def levelsOf (edges : List (String × List String)) (order : List String) : List (String × Nat) :=
  order.foldl (fun levels id => levels ++ [(id, levelAbove levels (dependenciesIn edges id))]) []

/-- The graph of a workflow. -/
def ofWorkflow (w : Workflow) : Except DefinitionError DependencyGraph :=
  let nodes := w.steps.map (·.id)
  let edges := edgesOf w
  match dangling? edges with
  | some (step, dependency) => .error (.dangling step dependency)
  | none =>
    match Graph.walk nodes (dependenciesIn edges) with
    | .error cycle => .error (.cycle cycle.back)
    | .ok order => .ok ⟨nodes, edges, levelsOf edges order⟩

def dependencies (g : DependencyGraph) (id : String) : List String := dependenciesIn g.edges id

def level? (g : DependencyGraph) (id : String) : Option Nat := levelIn? g.levels id

/-- How many levels there are. -/
def height (g : DependencyGraph) : Nat := (g.levels.map fun l => l.2 + 1).foldl max 0

/-- The steps of a level, in the order of the workflow. -/
def stepsAt (g : DependencyGraph) (w : Workflow) (level : Nat) : List Step :=
  w.steps.filter fun s => g.level? s.id == some level

/-- What is filed under an id. -/
def entry {α : Type} (filed : List (String × α)) (id : String) : Checked α :=
  match filed.find? (·.1 == id) with
  | some found => .ok found.2
  | none => .error (.noKey (Text.quoted id))

/-- The ids by their levels, those of one level in the order of the workflow. -/
def byLevel (g : DependencyGraph) : Checked (List String) := do
  let ranked ← g.nodes.mapM fun id => do return (id, ← entry g.levels id)
  return (ranked.mergeSort fun a b => a.2 ≤ b.2).map (·.1)

/-- Adds to the known ancestors those of one id: its dependencies and their ancestors. -/
def addAncestors (g : DependencyGraph) (known : List (String × List String)) (id : String) :
    Checked (List (String × List String)) := do
  let direct ← entry g.edges id
  let further ← direct.mapM (entry known)
  return known ++ [(id, (direct ++ further.flatten).eraseDups)]

/-- The ids that each id depends on, directly or not. -/
def ancestors (g : DependencyGraph) : Checked (List (String × List String)) := do
  (← g.byLevel).foldlM g.addAncestors []

end DependencyGraph

end Stepwise
