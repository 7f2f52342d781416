import Stepwise.Execution.World
import Stepwise.Reference.Resolution
import Stepwise.Workflow.Config

/-!
Completions: a prompt and perhaps a system message, taken from the inputs, the configuration or the
store of prompts, go to the provider, and its reply is the output.
-/

namespace Stepwise.Completion

/-- The inputs that hold messages and fill no placeholders. -/
def messageNames : List String := ["prompt", "system"]

/-- A text that is not blank. -/
def spoken? (s : String) : Option String := if Text.allBlank s then none else some s

/-- The text of a message: an input, else the configuration, else the prompt under a key; empty
where there is none. -/
def pick (w : World) (input : Value) (config key : Option String) : String :=
  match (input.textOf?.bind spoken?).or (config.bind spoken?) with
  | some s => s
  | none =>
    match key, w.prompt? with
    | some name, some prompts => if name = "" then "" else prompts name
    | _, _ => ""

/-- The messages of a request. -/
def messages (prompt system : String) (fillings : Fields) : Checked (List Message) := do
  let first ← if system = "" then pure []
    else do
      let content ← Template.substitute system (.ofFields fillings)
      pure [Message.mk "system" content]
  let content ← Template.substitute prompt (.ofFields fillings)
  return first ++ [⟨"user", content⟩]

/-- The output of a reply. -/
def output (outputs : List String) (reply : String) : Except StepError Fields :=
  let trimmed := Text.trimString reply
  if trimmed = "" then .error .noContent
  else .ok [(outputs.head?.getD defaultOutput, .text trimmed)]

/-- The outputs of a completion step. -/
def request (w : World) (ctx : Context) (outputs : List String) (config : CompletionConfig)
    (inputs : Fields) : Asked Fields := do
  let fillings := inputs.filter fun f => !messageNames.contains f.1
  let prompt := pick w (Fields.getD inputs "prompt") config.prompt config.promptKey
  if prompt = "" then throw .promptMissing
  let system := pick w (Fields.getD inputs "system") config.system config.systemKey
  let messages ← Asked.checked (messages prompt system fillings)
  match w.complete? with
  | none => throw .providerMissing
  | some complete =>
    let request : CompletionRequest :=
      ⟨config.model, messages, config.maxTokens, config.temperature, ctx.run⟩
    let reply ← ExceptT.lift
      (⟨complete request, { completions := [request] }⟩ : Traced CompletionReply)
    match reply with
    | .failure detail => throw (.providerFailed detail)
    | .text s =>
      match output outputs s with
      | .ok fields => return fields
      | .error e => throw e

end Stepwise.Completion
