import Stepwise.Fault

/-!
Failures: why a definition cannot be run, and why a step has no outputs.
-/

namespace Stepwise

/-- What is wrong with a workflow as a whole. -/
inductive DefinitionError where
  | unknownWorkflow (id : String)
  | cycle (step : String)
  | dangling (step dependency : String)
  | noExecutor (kind : String)
  deriving DecidableEq, Repr, Inhabited

def DefinitionError.message : DefinitionError → String
  | unknownWorkflow id => "Workflow not found: " ++ id
  | cycle step => "Circular dependency detected involving step: " ++ step
  | dangling step dependency => s!"Step '{step}' depends on non-existent step '{dependency}'"
  | noExecutor kind => "No executor found for step type: " ++ kind

/-- The inputs that a remote endpoint asks for. -/
inductive RemoteNeed where
  | channel
  | playlist
  | commentVideo
  | captionVideo
  deriving DecidableEq, Repr, Inhabited

def RemoteNeed.message : RemoteNeed → String
  | channel => "Channel ID is required for analytics data"
  | playlist => "Playlist ID is required for playlist items"
  | commentVideo => "Video ID is required for comment threads"
  | captionVideo => "Video ID is required for captions"

/-- Why a step has no outputs. -/
inductive StepError where
  | noExecutor (kind : String)
  | badConfig (kind report : String)
  | scriptMissing
  | reservedInputs (names : List String)
  | script (fault : Fault)
  | scriptResult (typeName : String)
  | tokenMissing
  | unsupportedEndpoint (name : String)
  | needs (need : RemoteNeed)
  | noChannel
  | requestFailed (text url errorClass : String)
  | badStatus (status : Int) (reason body url : String)
  | promptMissing
  | providerMissing
  | noContent
  | providerFailed (text : String)
  | groupEmpty
  | runnerMissing
  /-- The failures of sub-steps, each with its id. -/
  | subSteps (failures : List (String × String))
  /-- A fault of an operation on values. -/
  | fault (fault : Fault)
  deriving DecidableEq, Repr, Inhabited

namespace StepError

/-- The inputs that no script may use, in order. -/
def reservedNames : List String := ["steps", "workflow_inputs"]

def message : StepError → String
  | noExecutor kind => (DefinitionError.noExecutor kind).message
  | badConfig kind report => s!"Invalid configuration for step type '{kind}': {report}"
  | scriptMissing => "Transform script is required"
  | reservedInputs names => "Transform inputs use reserved names: " ++ ", ".intercalate names
  | script cause => "Transform execution failed: " ++ cause.message
  | scriptResult t => "Transform execution failed: script must produce a mapping, got " ++ t
  | tokenMissing => "Access token is required for external API calls"
  | unsupportedEndpoint name => "Unsupported external API endpoint: " ++ name
  | needs need => need.message
  | noChannel => "No channel data found"
  | requestFailed text _ _ => "External API request failed: " ++ text
  | badStatus status reason body _ => s!"External API error: {status} {reason} - {body}"
  | promptMissing => "Prompt is required for completion calls"
  | providerMissing => "No completion provider configured"
  | noContent => "No content received from completion provider"
  | providerFailed text => text
  | groupEmpty => "Parallel group requires at least one sub-step"
  | runnerMissing => "Parallel group has no step runner"
  | subSteps failures =>
    "Parallel step failures: " ++ ", ".intercalate (failures.map fun f => f.1 ++ ": " ++ f.2)
  | fault f => f.message

/-- What a run reports: the message, or what kind of error it is where the message is empty. -/
def reported (e : StepError) : String :=
  if e.message != "" then e.message
  else
    match e with
    | providerFailed _ => "RuntimeError"
    | fault .repetitionTooLarge => "MemoryError"
    | _ => "Exception"

end StepError

end Stepwise
