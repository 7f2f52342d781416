import Stepwise.Schema.Reader
import Stepwise.Workflow.Basic

/-!
Loading of steps and workflows from values. Members that are no fields are passed over.
-/

namespace Stepwise

open Schema

/-- How a record of a kind is reported where a value comes from a document or not. -/
def Schema.formOf (document : Bool) (name : String) : RecordForm :=
  if document then .document else .named name

namespace Step

def ofEntries (entries : Entries) : Loaded Step :=
  Step.mk <$> required entries "id" text <*> required entries "type" text <*>
    field entries "name" "" text <*> field entries "inputs" [] mapping <*>
    field entries "outputs" [] (list text) <*> field entries "config" [] mapping <*>
    field entries "dependencies" [] (list text)

def reader (document : Bool) : Reader Step := record (formOf document "WorkflowStep") ofEntries

/-- A step from a value. -/
def load (v : Value) : Checked Step := (reader false v).checked "WorkflowStep"

end Step

namespace Trigger

def ofEntries (entries : Entries) : Loaded Trigger :=
  Trigger.mk <$> field entries "type" .manual (choice TriggerKind.options) <*>
    field entries "config" [] mapping

def reader (document : Bool) : Reader Trigger := record (formOf document "WorkflowTrigger") ofEntries

end Trigger

namespace Workflow

def ofEntries (document : Bool) (entries : Entries) : Loaded Workflow :=
  Workflow.mk <$> required entries "id" text <*> required entries "name" text <*>
    field entries "version" defaultVersion text <*> field entries "description" "" text <*>
    field entries "steps" [] (list (Step.reader document)) <*>
    field entries "triggers" [] (list (Trigger.reader document))

def reader (document : Bool) : Reader Workflow :=
  record (formOf document "Workflow") (ofEntries document)

/-- A workflow from a value. -/
def load (v : Value) : Checked Workflow := (reader false v).checked "Workflow"

end Workflow

end Stepwise
