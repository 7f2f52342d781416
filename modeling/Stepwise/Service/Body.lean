import Stepwise.Canvas.Node
import Stepwise.Json.Reading
import Stepwise.Repository.Stored
import Stepwise.Service.Response

/-!
Bodies of requests, and the data that they carry.
-/

namespace Stepwise

open Schema

inductive Body where
  | absent
  /-- JSON, or the text of a body that is no JSON by its content type. -/
  | content (v : Value)
  | malformed (position : Nat) (error : String)
  | unreadable
  deriving Inhabited

namespace Body

/-- A text without the mark of its encoding at the front. -/
def withoutMark (s : String) : String :=
  if s.toList.head? = some '\ufeff' then String.ofList (s.toList.drop 1) else s

def ofRequest (r : Request) : Body :=
  if r.body = "" then absent
  else if !r.saysJson then content (.text r.body)
  else
    match Json.parse (withoutMark r.body) with
    | .ok v => content v
    | .error e =>
      match e.cause with
      | .form text => malformed e.position.index text
      | .digits _ => unreadable

/-- The data that a reader reads from a body, or from what stands for an absent one. -/
def read {α : Type} (reader : Reader α) (whenAbsent : Loaded α) (b : Body) : Except Rejection α :=
  let accept : Loaded α → Except Rejection α
    | .ok a => .ok a
    | .bad issues => .error (.invalid (issues.map (Complaint.ofIssue "body")))
  match b with
  | absent => accept whenAbsent
  | content v => accept (reader v)
  | malformed position error => .error (.invalid [.malformed position error])
  | unreadable => .error .unreadableBody

/-- Reads a body that must be there. -/
def require {α : Type} (reader : Reader α) (b : Body) : Except Rejection α :=
  b.read reader (.fail .missing .null)

end Body

/-! ### Uploads -/

/-- A definition to be stored, and the names to store it under. -/
structure Upload where
  key : Option String := none
  name : Option String := none
  description : Option String := none
  definition : Workflow
  drawing : Option Fields := none
  deriving Inhabited

namespace Upload

def ofEntries (entries : Entries) : Loaded Upload :=
  Upload.mk <$> field entries "key" none (optional text) <*>
    field entries "name" none (optional text) <*>
    field entries "description" none (optional text) <*>
    required entries "definition" (Workflow.reader true) <*>
    field entries "visual" none (optional mapping)

def reader : Reader Upload := record .document ofEntries

/-- A text, or another where there is none or an empty one. -/
def orElse (given : Option String) (other : String) : String :=
  match given with
  | some s => if s = "" then other else s
  | none => other

/-- The workflow as it is to be stored. The definition stands in for what is not given. -/
def toStored (u : Upload) : Stored :=
  { id := u.definition.id
    key := orElse u.key u.definition.id
    name := orElse u.name u.definition.name
    description := some (u.description.getD u.definition.description)
    version := u.definition.version
    definition := u.definition
    drawing := u.drawing }

end Upload

/-! ### Drawings -/

/-- A canvas to be compiled. -/
structure Drawing where
  name : String
  description : Option String := none
  nodes : List Node
  /-- Is the workflow to be stored? -/
  save : Bool := false
  deriving Inhabited

namespace Drawing

def ofEntries (entries : Entries) : Loaded Drawing :=
  Drawing.mk <$> required entries "name" (textOf 1) <*>
    field entries "description" none (optional text) <*>
    required entries "nodes" (list (Node.reader true)) <*>
    field entries "save" false boolean

def reader : Reader Drawing := record .document ofEntries

/-- A compiled workflow as it is to be stored, with the nodes it comes from. -/
def toStored (d : Drawing) (w : Workflow) : Stored :=
  .ofDefinition w (some [("nodes", .list (d.nodes.map Node.toValue))])

end Drawing

/-! ### Triggers -/

/-- The inputs in the body of a request that starts a run. -/
def Body.inputsReader : Reader Fields :=
  record .document fun entries => field entries "inputs" [] mapping

end Stepwise
