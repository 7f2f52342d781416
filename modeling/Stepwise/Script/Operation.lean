import Stepwise.Script.Call
import Stepwise.Script.Expr
import Stepwise.Script.Filter

/-!
The operations of expressions on values, and the arguments of calls.
-/

namespace Stepwise.Script

def UnaryOp.apply : UnaryOp → Value → Checked Value
  | negate => Value.negate
  | keep => Value.keep

def BinaryOp.apply : BinaryOp → Value → Value → Checked Value
  | add => Value.add
  | sub => Value.sub
  | mul => Value.mul
  | div => Value.div
  | floorDiv => Value.floorDiv
  | mod => Value.mod
  | pow => Value.pow

def ComparisonOp.apply (op : ComparisonOp) (v w : Value) : Checked Bool :=
  match op with
  | order test => Value.ordered test v w
  | eq => Value.equal v w
  | ne => do return !(← Value.equal v w)
  | member => w.contains v
  | notMember => do return !(← w.contains v)

/-- The texts of all values, one after the other. -/
def joinTexts (values : List Value) : Checked Value := do
  return .text (String.join (← values.mapM Value.shown))

/-- A mapping from entries in order. -/
def dictOf (entries : List (Value × Value)) : Checked Value := do
  let filed ← entries.foldlM (fun acc (k, v) => do
    Value.checkKey k
    return Value.put acc k v) []
  return .dict filed

/-- The values that an argument with a star stands for. -/
def spreadItems : Option Value → Checked (List Value)
  | none => .ok []
  | some v =>
    match v.items with
    | .error (.notIterable t) =>
      .error (.badCall ("Value after * must be an iterable, not " ++ t))
    | .error fault => .error fault
    | .ok (_, some fault) => .error fault
    | .ok (items, none) => .ok items

/-- Named arguments together with those of a mapping with two stars. -/
def spreadFields (function : String) (named : Fields) : Option Value → Checked Fields
  | none => .ok named
  | some (.dict entries) => entries.foldlM (fun acc (k, v) =>
      match k.textOf? with
      | none => .error (.badCall "keywords must be strings")
      | some name =>
        if acc.any (·.1 == name) then
          .error (.badCall (function ++ " got multiple values for keyword argument '" ++ name ++ "'"))
        else .ok (acc ++ [(name, v)])) named
  | some (.undefined a) => .error a.fault
  | some v => .error (.keywordMapping function v.typeName)

/-- The arguments of a call. A function named twice by its stars is reported under `function`. -/
def collectArguments (function : String) (args : List Value) (named : Fields)
    (spread spreadNamed : Option Value) : Checked Arguments := do
  let more ← spreadItems spread
  return ⟨args ++ more, ← spreadFields function named spreadNamed⟩

/-- How messages name what calls run through. -/
def callerText : String := "jinja2.sandbox.SandboxedEnvironment.call()"

/-- A comparison chain: each value with the next, up to the first that fails. -/
def chainOf (first : Value) : List (ComparisonOp × Checked Value) → Checked Bool
  | [] => .ok true
  | (op, next) :: rest => do
    let w ← next
    if ← op.apply first w then chainOf w rest else return false

end Stepwise.Script
