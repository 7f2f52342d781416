import Stepwise.Workflow.Loading

/-!
Nodes of a canvas: boxes drawn by hand, each with the ids of the nodes that its output flows to.
-/

namespace Stepwise

open Schema

structure Node where
  id : String
  /-- The id of the selected endpoint. -/
  endpoint : Option String := none
  inputs : Fields := []
  config : Fields := []
  /-- The ids of the nodes that take this node's output. -/
  connections : List String := []
  deriving Inhabited

namespace Node

def ofEntries (entries : Entries) : Loaded Node :=
  Node.mk <$> required entries "id" text <*> field entries "endpoint" none (optional text) <*>
    field entries "inputs" [] mapping <*> field entries "config" [] mapping <*>
    field entries "connections" [] (list text)

def reader (document : Bool) : Reader Node := record (formOf document "VisualNode") ofEntries

/-- A node from a value. -/
def load (v : Value) : Checked Node := (reader false v).checked "VisualNode"

def toValue (n : Node) : Value :=
  .ofFields [("id", .text n.id),
    ("endpoint", match n.endpoint with
      | some e => .text e
      | none => .null),
    ("inputs", .ofFields n.inputs), ("config", .ofFields n.config),
    ("connections", .texts n.connections)]

end Node

end Stepwise
