import Stepwise.Canvas.Wiring
import Stepwise.Graph.Walk
import Stepwise.Naming
import Stepwise.Workflow.Config

/-!
Compilation of a canvas into a workflow: each node becomes a step, the steps come dependencies
first, and every output is wired into an input of the nodes that it flows to.
-/

namespace Stepwise

/-- Why a canvas is no workflow. -/
inductive CompileError where
  | empty
  | duplicateIds
  | unknownTarget (node target : String)
  /-- A connection that closes a cycle. -/
  | cycle (node back : String)
  /-- A node on a cycle. -/
  | cycleAt (node : String)
  | unknownEndpoint (id : String)
  deriving DecidableEq, Repr, Inhabited

def CompileError.message : CompileError → String
  | empty => "Cannot compile empty workflow"
  | duplicateIds => "Duplicate node ids in visual workflow"
  | unknownTarget node target => s!"Node '{node}' connects to unknown node '{target}'"
  | cycle node back => s!"Circular dependency detected involving nodes: {node} -> {back}"
  | cycleAt node => "Circular dependency detected at node: " ++ node
  | unknownEndpoint id => "Unknown endpoint: " ++ id

namespace Canvas

open Wiring (Remark)

/-- The nodes that flow into each node. -/
abbrev DependencyMap := List (String × List String)

def dependenciesOf (m : DependencyMap) (id : String) : List String :=
  ((m.find? (·.1 == id)).map (·.2)).getD []

/-- Adds a node to those that flow into a target. -/
def addDependency (m : DependencyMap) (target source : String) : DependencyMap :=
  m.map fun e =>
    if e.1 == target && !e.2.contains source then (e.1, e.2 ++ [source]) else e

/-- Adds the connections of a node, given by their targets. -/
def addConnections (source : String) (m : DependencyMap) :
    List String → Except CompileError DependencyMap
  | [] => .ok m
  | target :: rest =>
    if m.any (·.1 == target) then addConnections source (addDependency m target source) rest
    else .error (.unknownTarget source target)

def addNodes (m : DependencyMap) : List Node → Except CompileError DependencyMap
  | [] => .ok m
  | node :: rest => do addNodes (← addConnections node.id m node.connections) rest

/-- The nodes that flow into each node, in the order of the canvas. -/
def dependencyMap (nodes : List Node) : Except CompileError DependencyMap :=
  addNodes (nodes.map fun n => (n.id, ([] : List String))).eraseDups nodes

/-- The nodes that no connection leads to or from. -/
def orphans (nodes : List Node) (m : DependencyMap) : List String :=
  (nodes.filter fun n => (dependenciesOf m n.id).isEmpty && n.connections.isEmpty).map (·.id)

/-- The ids of the nodes, each after those that flow into it. -/
def order (nodes : List Node) (m : DependencyMap) : Except Graph.Cycle (List String) :=
  Graph.walk (nodes.map (·.id)) (dependenciesOf m)

/-- The endpoint that a node selects, if it selects one. -/
def endpointOf (node : Node) : Except CompileError (Option Endpoint) :=
  match node.endpoint with
  | none => .ok none
  | some "" => .ok none
  | some id =>
    match Catalog.endpoint? id with
    | some e => .ok (some e)
    | none => .error (.unknownEndpoint id)

/-- The endpoints of all nodes. -/
def endpointsOf : List Node → Except CompileError (List (String × Option Endpoint))
  | [] => .ok []
  | node :: rest => do
    let e ← endpointOf node
    return (node.id, e) :: (← endpointsOf rest)

/-- The last characters of an id. -/
def lastFour (id : String) : String := String.ofList (id.toList.drop (id.length - 4))

/-- The step that a node becomes, and what is noted of it. -/
def stepOf (endpointOf : String → Option Endpoint) (node : Node) (dependencies : List String) :
    Step × List Remark :=
  let endpoint := endpointOf node.id
  let wired := Wiring.wire endpointOf node dependencies
  let outputs := match endpoint.map Endpoint.outputNames with
    | some (first :: rest) => first :: rest
    | _ => [defaultOutput]
  let (kind, config) :=
    Wiring.configOf node endpoint (outputs.head?.getD defaultOutput) wired.slots
  ({ id := node.id
     kind := kind.name
     name := (endpoint.map Endpoint.name).getD ("Step " ++ lastFour node.id)
     inputs := wired.inputs
     outputs
     config
     dependencies }, wired.remarks)

/-- What a compilation gives: a workflow or an error, and the remarks made on the way. -/
structure Compiled where
  result : Except CompileError Workflow
  remarks : List Remark := []
  deriving Inhabited

/-- The text that describes a workflow for which there is no description. -/
def defaultDescription (count : Nat) : String := s!"Visual workflow with {count} steps"

/-- The workflow of nodes whose order is known. -/
def assemble (nodes : List Node) (m : DependencyMap)
    (endpoints : List (String × Option Endpoint)) (ids : List String) (name : String)
    (description : Option String) : Workflow × List Remark :=
  let endpointOf (id : String) := ((endpoints.find? (·.1 == id)).map (·.2)).getD none
  let chosen := ids.filterMap fun id => nodes.find? (·.id == id)
  let steps := chosen.map fun n => stepOf endpointOf n (dependenciesOf m n.id)
  let described := match description with
    | some d => if d = "" then defaultDescription nodes.length else d
    | none => defaultDescription nodes.length
  ({ id := Naming.slug name
     name
     description := described
     steps := steps.map (·.1)
     triggers := [{}] }, steps.flatMap (·.2))

/-- Do all nodes have ids of their own? -/
def distinctIds (nodes : List Node) : Bool :=
  (nodes.map (·.id)).eraseDups.length == nodes.length

/-- The remark on nodes without any connection, where there are other nodes. -/
def orphanRemarks (nodes : List Node) (m : DependencyMap) : List Remark :=
  let found := orphans nodes m
  if 1 < nodes.length ∧ !found.isEmpty then [.orphans found] else []

/-- Compiles nodes. With `strict` cycles are looked for first, and nodes without any connection are
noted. -/
def compile (strict : Bool) (nodes : List Node) (name : String) (description : Option String) :
    Compiled :=
  if nodes.isEmpty then ⟨.error .empty, []⟩
  else if !distinctIds nodes then ⟨.error .duplicateIds, []⟩
  else
    match dependencyMap nodes with
    | .error e => ⟨.error e, []⟩
    | .ok m =>
      let ordered := order nodes m
      match strict, ordered with
      | true, .error cycle => ⟨.error (.cycle cycle.node cycle.back), []⟩
      | _, _ =>
        let remarks := if strict then orphanRemarks nodes m else []
        match endpointsOf nodes, ordered with
        | .error e, _ => ⟨.error e, remarks⟩
        | .ok _, .error cycle => ⟨.error (.cycleAt cycle.back), remarks⟩
        | .ok endpoints, .ok ids =>
          let (workflow, more) := assemble nodes m endpoints ids name description
          ⟨.ok workflow, remarks ++ more⟩

end Canvas

end Stepwise
