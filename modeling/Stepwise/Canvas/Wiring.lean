import Stepwise.Canvas.Catalog
import Stepwise.Canvas.Node
import Stepwise.Text.Class
import Stepwise.Value.Convert
import Stepwise.Workflow.Config

/-!
Wiring: which input of a node takes the output of each node before it, and which inputs are filled
from the inputs of the run or from defaults.
-/

namespace Stepwise.Wiring

/-- The inputs that take an output before all others, in order. -/
def preferred : List String := ["content", "data", "video_ids", "rows", "input", "payload"]

/-- Inputs that every run brings along. -/
def runInputs : List String := ["access_token", "channel_id"]

/-- Endings of the names of credentials. -/
def credentialEndings : List String := ["_token", "_api_key"]

/-- Is an input filled from the inputs of the run? -/
def isCredential (name : String) : Bool :=
  runInputs.contains name ||
    credentialEndings.any fun ending => ending.toList.isSuffixOf name.toList

/-- What is noted of a canvas while it is compiled. -/
inductive Remark where
  /-- Nodes without any connection. -/
  | orphans (nodes : List String)
  | missingInputs (node : String) (names : List String)
  /-- An output that no input is free for. -/
  | noFreeInput (node dependency : String)
  deriving DecidableEq, Repr, Inhabited

/-- The input that takes the next output: a preferred one, else the first free one that is no
credential, else `data` where none are declared. -/
def pickSlot (declared : List String) (inputs : Fields) : Option String :=
  let free (name : String) := !Fields.has inputs name
  match preferred.find? fun name => declared.contains name && free name with
  | some name => some name
  | none =>
    match declared.find? fun name => free name && !isCredential name with
    | some name => some name
    | none => if declared.isEmpty && free "data" then some "data" else none

/-- The name of the output that flows from a node. -/
def outputOf (endpoint : Option Endpoint) : String :=
  ((endpoint.bind fun e => e.outputs.head?).map Param.name).getD defaultOutput

/-- The reference to the output of a node. -/
def referenceTo (node output : String) : String := "$steps." ++ node ++ "." ++ output

/-- The inputs of a node, and those of them that are wired to outputs, in order. -/
structure Wired where
  inputs : Fields
  slots : List String := []
  remarks : List Remark := []
  deriving Inhabited

/-- Wires the output of one more node. -/
def connect (endpointOf : String → Option Endpoint) (declared : List String) (node : String)
    (w : Wired) (dependency : String) : Wired :=
  match pickSlot declared w.inputs with
  | some slot =>
    { w with
      inputs := Fields.set w.inputs slot
        (.text (referenceTo dependency (outputOf (endpointOf dependency))))
      slots := w.slots ++ [slot] }
  | none => { w with remarks := w.remarks ++ [.noFreeInput node dependency] }

/-- Fills a parameter that is not set. -/
def fillParam (inputs : Fields) (p : Param) : Fields :=
  if Fields.has inputs p.name then inputs
  else if isCredential p.name then Fields.set inputs p.name (.text ("$input." ++ p.name))
  else
    match p.default? with
    | some v => Fields.set inputs p.name v
    | none => inputs

/-- Is a value nothing, or the empty text? -/
def isUnset : Value → Bool
  | .null => true
  | v => v.textOf? == some ""

/-- The parameters that have to be set and are not. -/
def missing (e : Endpoint) (inputs : Fields) : List String :=
  ((e.inputs.filter fun p => p.required && isUnset (Fields.getD inputs p.name)).map Param.name)

/-- The inputs of a node whose dependencies are given in order. -/
def wire (endpointOf : String → Option Endpoint) (node : Node) (dependencies : List String) :
    Wired :=
  let endpoint := endpointOf node.id
  let declared := (endpoint.map Endpoint.inputNames).getD []
  let w := dependencies.foldl (connect endpointOf declared node.id) { inputs := node.inputs }
  match endpoint with
  | none => w
  | some e =>
    let inputs := e.inputs.foldl fillParam w.inputs
    let absent := missing e inputs
    { w with
      inputs
      remarks := w.remarks ++ (if absent.isEmpty then [] else [.missingInputs node.id absent]) }

/-- The script that puts out one input under a name. -/
def passThrough (output : String) (source : Option String) : String :=
  let value := match source with
    | some s => if Text.isIdentifier s.toList then s else "none"
    | none => "none"
  "\x7b\"" ++ output ++ "\": " ++ value ++ "\x7d"

/-- The value of a name that counts as true, or a default. -/
def trueOr (fields : Fields) (name : String) (default : Value) : Value :=
  let v := Fields.getD fields name
  if v.isTrue then v else default

/-- The configuration of a completion node. -/
def completionConfig (config : Fields) : Fields :=
  let temperature := match Fields.getD config "temperature" with
    | .null => Value.float defaultTemperature
    | v => v
  let all : Fields :=
    [("model", trueOr config "model" (.text defaultModel)),
      ("prompt", Fields.getD config "prompt"), ("system", Fields.getD config "system"),
      ("system_key", Fields.getD config "system_key"),
      ("prompt_key", Fields.getD config "prompt_key"),
      ("max_tokens", trueOr config "max_tokens" (.int defaultMaxTokens)),
      ("temperature", temperature)]
  all.filter fun f =>
    match f.2 with
    | .null => false
    | _ => true

/-- The kind and the configuration of the step that a node becomes. -/
def configOf (node : Node) (endpoint : Option Endpoint) (output : String) (slots : List String) :
    StepKind × Fields :=
  let source := slots.head?.or (node.inputs.head?.map (·.1))
  let script (v : Value) : StepKind × Fields := (.script, [("script", v)])
  match endpoint with
  | none => script (.text (passThrough output source))
  | some e =>
    match e.category with
    | .platform =>
      (.remote, [("endpoint", .text (Catalog.remoteName e.id)), ("params", .ofFields node.config)])
    | .completion => (.completion, completionConfig node.config)
    | _ =>
      if e.id = "transform-data" then
        let named := match source with
          | some "" => "data"
          | some s => s
          | none => "data"
        script (trueOr node.config "script" (.text (passThrough output (some named))))
      else script (.text (passThrough output source))

end Stepwise.Wiring
