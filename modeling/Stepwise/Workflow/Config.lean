import Stepwise.Workflow.Loading

/-!
Configurations of steps, one shape for each kind of step.
-/

namespace Stepwise

open Schema

/-- The call of a remote endpoint. -/
structure RemoteConfig where
  endpoint : String
  params : Fields := []
  deriving Inhabited

/-- The request of a completion. A text may stand here or be kept under a key. -/
structure CompletionConfig where
  model : String
  prompt : Option String
  promptKey : Option String
  system : Option String
  systemKey : Option String
  maxTokens : Int
  temperature : Binary64
  deriving Inhabited

def defaultModel : String := "gpt-4o-mini"

def defaultMaxTokens : Int := 150

/-- Seven tenths. -/
def defaultTemperature : Binary64 := .ofDecimal false 7 (-1)

structure ScriptConfig where
  script : String := ""
  deriving Inhabited

structure GroupConfig where
  steps : List Step := []
  deriving Inhabited

inductive StepConfig where
  | remote (config : RemoteConfig)
  | completion (config : CompletionConfig)
  | script (config : ScriptConfig)
  | group (config : GroupConfig)
  deriving Inhabited

/-- The fields of a record, and no other members. -/
def Schema.closed {α : Type} (names : List String) (entries : Entries) (fields : Loaded α) :
    Loaded α :=
  (fun a () => a) <$> fields <*> noExtras names entries

namespace RemoteConfig

def ofEntries (entries : Entries) : Loaded RemoteConfig :=
  closed ["endpoint", "params"] entries
    (RemoteConfig.mk <$> required entries "endpoint" (textOf 1) <*>
      field entries "params" [] mapping)

def toValue (c : RemoteConfig) : Value :=
  .ofFields [("endpoint", .text c.endpoint), ("params", .ofFields c.params)]

end RemoteConfig

namespace CompletionConfig

def names : List String :=
  ["model", "prompt", "prompt_key", "system", "system_key", "max_tokens", "temperature"]

def ofEntries (entries : Entries) : Loaded CompletionConfig :=
  closed names entries
    (CompletionConfig.mk <$> field entries "model" defaultModel text <*>
      field entries "prompt" none (optional text) <*>
      field entries "prompt_key" none (optional text) <*>
      field entries "system" none (optional text) <*>
      field entries "system_key" none (optional text) <*>
      field entries "max_tokens" defaultMaxTokens (integerIn 1 none) <*>
      field entries "temperature" defaultTemperature (numberIn 0 2))

/-- A text that may be missing. -/
def textOrNull : Option String → Value
  | some s => .text s
  | none => .null

def toValue (c : CompletionConfig) : Value :=
  .ofFields [("model", .text c.model), ("prompt", textOrNull c.prompt),
    ("prompt_key", textOrNull c.promptKey), ("system", textOrNull c.system),
    ("system_key", textOrNull c.systemKey), ("max_tokens", .int c.maxTokens),
    ("temperature", .float c.temperature)]

end CompletionConfig

def ScriptConfig.ofEntries (entries : Entries) : Loaded ScriptConfig :=
  closed ["script"] entries (ScriptConfig.mk <$> field entries "script" "" text)

def GroupConfig.ofEntries (entries : Entries) : Loaded GroupConfig :=
  closed ["steps"] entries (GroupConfig.mk <$> field entries "steps" [] (list (Step.reader false)))

namespace StepConfig

/-- The record that a report names. -/
def recordName : StepKind → String
  | .remote => "ExternalCallConfig"
  | .completion => "LlmCompletionConfig"
  | .script => "TransformConfig"
  | .group => "ParallelGroupConfig"

def ofEntries (kind : StepKind) (entries : Entries) : Loaded StepConfig :=
  match kind with
  | .remote => remote <$> RemoteConfig.ofEntries entries
  | .completion => completion <$> CompletionConfig.ofEntries entries
  | .script => script <$> ScriptConfig.ofEntries entries
  | .group => group <$> GroupConfig.ofEntries entries

/-- The configuration of a step of a kind, or the report of what is wrong with it. -/
def ofFields (kind : StepKind) (fields : Fields) : Except String StepConfig :=
  match ofEntries kind (fields.map fun f => (.text f.1, f.2)) with
  | .ok config => .ok config
  | .bad issues => .error (report (recordName kind) issues)

def toValue : StepConfig → Value
  | remote c => c.toValue
  | completion c => c.toValue
  | script c => .ofFields [("script", .text c.script)]
  | group c => .ofFields [("steps", .list (c.steps.map Step.toValue))]

end StepConfig

end Stepwise
