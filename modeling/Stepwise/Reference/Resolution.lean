import Stepwise.Json.Writing
import Stepwise.Reference.Lookup
import Stepwise.Reference.Template
import Stepwise.Text.Search
import Stepwise.Value.Fields

/-!
Resolution: the value of a reference in the context of a run, and the text of a template whose
placeholders are filled in.
-/

namespace Stepwise

/-- What a step can refer to. -/
structure Context where
  /-- The inputs of the run. -/
  inputs : Entries := []
  /-- The outputs of the steps that are done, by their ids. -/
  results : Fields := []
  /-- The id of the run; empty outside a run. -/
  run : String := ""
  deriving Inhabited

/-- The values that a scope holds. -/
def Context.scope (ctx : Context) : Scope → Value
  | .input => .dict ctx.inputs
  | .steps => .ofFields ctx.results

namespace Value

/-- The text of a value inside another text: nothing for null, items after commas, and a mapping as
JSON. -/
def inText : Value → Checked String
  | null => .ok ""
  | bool b => .ok (if b then "true" else "false")
  | float x =>
    match x.toInt? with
    | some n => if x.isInteger then writtenInt n else .ok x.text
    | none => .ok x.text
  | list items => do return ", ".intercalate (← inTextAll items)
  | tuple items => do return ", ".intercalate (← inTextAll items)
  | group key members => do
    let k ← key.inText
    return ", ".intercalate [k, ", ".intercalate (← inTextAll members)]
  | v@(dict _) => Json.render .lenientPlain v
  | v => v.shown
where
  inTextAll : List Value → Checked (List String)
    | [] => .ok []
    | v :: rest => do
      let t ← v.inText
      return t :: (← inTextAll rest)

end Value

namespace Reference

/-- The value of a reference. -/
def resolve (ctx : Context) (r : Reference) : Value := (ctx.scope r.scope).lookup r.path

end Reference

namespace Template

/-- The text that takes the place of a placeholder, which stays as it is where there is no value. -/
def fill (raw : String) (v : Value) : Checked String :=
  match v with
  | .null => .ok raw
  | v => v.inText

/-- The text of a token in a context. -/
def Token.render (ctx : Context) : Token → Checked String
  | literal text => .ok text
  | placeholder raw none => .ok raw
  | placeholder raw (some r) => fill raw (r.resolve ctx)

/-- The text of a template in a context. -/
def render (ctx : Context) (s : String) : Checked String := do
  let parts ← (← tokens s).mapM (Token.render ctx)
  return String.join parts

/-- The text of a piece, where a placeholder holds a path into the variables. -/
def Piece.substitute (fillings : Value) : Piece → Checked String
  | literal text => .ok (String.ofList text)
  | placeholder inside => do
    let path ← Path.ofChars (Text.trim inside)
    fill (String.ofList (enclosed inside)) (fillings.lookup path)

/-- The text of a template whose placeholders are paths into variables. -/
def substitute (s : String) (fillings : Value) : Checked String := do
  let parts ← (split s.toList).mapM (Piece.substitute fillings)
  return String.join parts

end Template

/-- The value that an input has in a context: references and templates are resolved, all else stands
for itself. -/
def Value.resolve (ctx : Context) (v : Value) : Checked Value := do
  match ← Reference.ofValue v with
  | some r => return r.resolve ctx
  | none =>
    match v.textOf? with
    | some s =>
      if Text.contains ['\x7b', '\x7b'] s.toList then return .text (← Template.render ctx s)
      else return v
    | none => return v

/-- The inputs of a step in a context. -/
def Fields.resolve (ctx : Context) : Fields → Checked Fields
  | [] => .ok []
  | (name, v) :: rest => do
    let value ← v.resolve ctx
    return (name, value) :: (← Fields.resolve ctx rest)

end Stepwise
