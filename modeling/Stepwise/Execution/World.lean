import Stepwise.Execution.Failure
import Stepwise.Time.Day
import Stepwise.Workflow.Basic

/-!
The world of a run: what answers its requests, and what it asks for. Everything that a step asks of
the world is kept in a trace.
-/

namespace Stepwise

/-- A request for remote data. -/
structure Fetch where
  url : String
  params : Fields
  headers : List (String × String)
  timeout : Binary64
  deriving Inhabited

inductive FetchReply where
  | response (status : Int) (reason body : String)
  /-- No response came; the class of the error and its text say why. -/
  | failure (errorClass text : String)
  deriving DecidableEq, Repr, Inhabited

structure Message where
  role : String
  content : String
  deriving DecidableEq, Repr, Inhabited

/-- A request for a completion. -/
structure CompletionRequest where
  model : String
  messages : List Message
  maxTokens : Int
  temperature : Binary64
  /-- The id of the run that asks. -/
  run : String
  deriving Inhabited

inductive CompletionReply where
  | text (s : String)
  | failure (text : String)
  deriving DecidableEq, Repr, Inhabited

/-- Outputs of a group that a later sub-step has overwritten. -/
structure Overwrite where
  group : String
  subStep : String
  keys : List String
  deriving DecidableEq, Repr, Inhabited

structure Trace where
  fetches : List Fetch := []
  completions : List CompletionRequest := []
  overwrites : List Overwrite := []
  deriving Inhabited

namespace Trace

def append (t u : Trace) : Trace :=
  ⟨t.fetches ++ u.fetches, t.completions ++ u.completions, t.overwrites ++ u.overwrites⟩

instance : Append Trace := ⟨append⟩

end Trace

/-- A result with the trace of what was asked for it. -/
structure Traced (α : Type) where
  value : α
  trace : Trace := {}
  deriving Inhabited

namespace Traced

instance : Monad Traced where
  pure a := { value := a }
  bind x f :=
    let y := f x.value
    ⟨y.value, x.trace ++ y.trace⟩

end Traced

/-- What may ask the world and may fail. -/
abbrev Asked (α : Type) := ExceptT StepError Traced α

structure World where
  fetch : Fetch → FetchReply
  /-- The provider of completions, if there is one. -/
  complete? : Option (CompletionRequest → CompletionReply)
  /-- The store of prompts, if there is one. -/
  prompt? : Option (String → String)
  timeout : Binary64
  today : Day
  /-- The kinds of steps that can be executed. -/
  kinds : List StepKind := StepKind.all
  /-- Can the sub-steps of groups be run? -/
  runsGroups : Bool := true

namespace World

/-- Fetches, and notes it. -/
def asks (w : World) (request : Fetch) : Traced FetchReply :=
  ⟨w.fetch request, { fetches := [request] }⟩

/-- The world without what executes a kind of steps. -/
def without (w : World) (kind : StepKind) : World :=
  { w with kinds := w.kinds.filter (· != kind) }

end World

/-- An operation on values as one that may ask the world. -/
def Asked.checked {α : Type} : Checked α → Asked α
  | .ok a => pure a
  | .error f => throw (.fault f)

end Stepwise
