import Stepwise.Value.Fields

/-!
Workflows: steps that depend on each other, and the triggers that start them.
-/

namespace Stepwise

/-- What a step does. -/
inductive StepKind where
  | remote
  | completion
  | script
  | group
  deriving DecidableEq, Repr, Inhabited

namespace StepKind

/-- The kinds in the order of their names. -/
def all : List StepKind := [remote, completion, group, script]

def name : StepKind → String
  | remote => "external-call"
  | completion => "llm-completion"
  | script => "transform"
  | group => "parallel-group"

def ofName? (s : String) : Option StepKind := all.find? fun k => k.name == s

theorem ofName?_name (k : StepKind) : ofName? k.name = some k := by cases k <;> decide

end StepKind

structure Step where
  id : String
  /-- The name of the kind; a definition may hold names of no kind. -/
  kind : String
  name : String := ""
  inputs : Fields := []
  outputs : List String := []
  config : Fields := []
  dependencies : List String := []
  deriving Inhabited

inductive TriggerKind where
  | manual
  | scheduled
  | webhook
  deriving DecidableEq, Repr, Inhabited

namespace TriggerKind

def options : List (String × TriggerKind) :=
  [("manual", manual), ("scheduled", scheduled), ("webhook", webhook)]

def name : TriggerKind → String
  | manual => "manual"
  | scheduled => "scheduled"
  | webhook => "webhook"

end TriggerKind

structure Trigger where
  kind : TriggerKind := .manual
  config : Fields := []
  deriving Inhabited

def defaultVersion : String := "1.0.0"

/-- The name of an output where none is declared. -/
def defaultOutput : String := "result"

structure Workflow where
  id : String
  name : String
  version : String := defaultVersion
  description : String := ""
  steps : List Step := []
  triggers : List Trigger := []
  deriving Inhabited

/-- The first step of an id. -/
def Workflow.step? (w : Workflow) (id : String) : Option Step := w.steps.find? (·.id == id)

/-! ### As values -/

/-- A list of texts as a value. -/
def Value.texts (items : List String) : Value := .list (items.map .text)

def Step.toValue (s : Step) : Value :=
  .ofFields [("id", .text s.id), ("type", .text s.kind), ("name", .text s.name),
    ("inputs", .ofFields s.inputs), ("outputs", .texts s.outputs), ("config", .ofFields s.config),
    ("dependencies", .texts s.dependencies)]

def Trigger.toValue (t : Trigger) : Value :=
  .ofFields [("type", .text t.kind.name), ("config", .ofFields t.config)]

def Workflow.toValue (w : Workflow) : Value :=
  .ofFields [("id", .text w.id), ("name", .text w.name), ("version", .text w.version),
    ("description", .text w.description), ("steps", .list (w.steps.map Step.toValue)),
    ("triggers", .list (w.triggers.map Trigger.toValue))]

end Stepwise
