import Stepwise.Execution.Failure
import Stepwise.Workflow.Loading

/-!
Stored workflows: a definition with the names it is kept under and the moments of its first and its
latest storing.
-/

namespace Stepwise

structure Stored where
  id : String
  /-- A second name, which stays when the workflow is stored again. -/
  key : String
  name : String
  description : Option String := none
  version : String := defaultVersion
  definition : Workflow
  /-- The drawing that the definition comes from. -/
  drawing : Option Fields := none
  created? : Option Moment := none
  updated? : Option Moment := none
  deriving Inhabited

namespace Stored

open Schema

def ofEntries (entries : Entries) : Loaded Stored :=
  Stored.mk <$> required entries "id" text <*> required entries "key" text <*>
    required entries "name" text <*> field entries "description" none (optional text) <*>
    field entries "version" defaultVersion text <*>
    required entries "definition" (Workflow.reader false) <*>
    field entries "visual" none (optional mapping) <*>
    field entries "created_at" none (optional moment) <*>
    field entries "updated_at" none (optional moment)

/-- A stored workflow from a value. -/
def load (v : Value) : Checked Stored :=
  (record (.named "StoredWorkflow") ofEntries v).checked "StoredWorkflow"

/-- The workflow as a value, with its moments written by a function. -/
def toValue (written : Moment → String) (s : Stored) : Value :=
  let timeOf (m? : Option Moment) : Value := (m?.map fun m => .text (written m)).getD .null
  .ofFields [("id", .text s.id), ("key", .text s.key), ("name", .text s.name),
    ("description", (s.description.map .text).getD .null), ("version", .text s.version),
    ("definition", s.definition.toValue), ("visual", (s.drawing.map .ofFields).getD .null),
    ("created_at", timeOf s.created?), ("updated_at", timeOf s.updated?)]

/-- A definition as it is stored under its own id. -/
def ofDefinition (w : Workflow) (drawing : Option Fields := none) : Stored :=
  { id := w.id
    key := w.id
    name := w.name
    description := some w.description
    version := w.version
    definition := w
    drawing }

/-- When the workflow was last stored. -/
def lastStored (s : Stored) : Int := ((s.updated?.or s.created?).map Moment.instant).getD 0

end Stored

/-! ### Supplies -/

/-- The moments and the fresh ids that storing takes, in the order in which they are handed out. -/
structure Supply where
  moment : Nat → Moment
  id : Nat → String
  momentsUsed : Nat := 0
  idsUsed : Nat := 0

namespace Supply

def nextMoment (s : Supply) : Moment × Supply :=
  (s.moment s.momentsUsed, { s with momentsUsed := s.momentsUsed + 1 })

/-- The given id, or a fresh one where it is empty. -/
def idFor (s : Supply) (given : String) : String × Supply :=
  if given = "" then (s.id s.idsUsed, { s with idsUsed := s.idsUsed + 1 }) else (given, s)

end Supply

/-- The workflow as it is stored: over an existing one it keeps the id, the key and the moment of the
first storing. -/
def Stored.stamp (supply : Supply) (w : Stored) : Option Stored → Stored × Supply
  | some existing =>
    let (now, supply) := supply.nextMoment
    ({ w with
       id := existing.id
       key := existing.key
       created? := some (existing.created?.getD now)
       updated? := some now }, supply)
  | none =>
    let (now, supply) := supply.nextMoment
    let (id, supply) := supply.idFor w.id
    ({ w with
       id
       created? := some (w.created?.getD now)
       updated? := some now }, supply)

/-! ### Errors -/

/-- Why a repository does not answer. -/
inductive RepositoryError where
  | unreachable (text : String)
  /-- A document cannot be read or written. -/
  | document (fault : Fault)
  deriving DecidableEq, Repr, Inhabited

namespace RepositoryError

def message : RepositoryError → String
  | unreachable text => text
  | document f => f.message

/-- What a run reports: the message, or what kind of error it is where the message is empty. -/
def reported (e : RepositoryError) : String :=
  if e.message != "" then e.message else "ConnectionError"

end RepositoryError

end Stepwise
