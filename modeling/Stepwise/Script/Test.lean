import Stepwise.Script.Arguments
import Stepwise.Script.Method.Text
import Stepwise.Value.Directives

/-!
Tests: what a script can ask of a value.
-/

namespace Stepwise.Script.Test

open Value (text list int bool)

/-- The names of the filters that scripts can use. -/
def filterNames : List String :=
  Value.namesIn "abs attr batch capitalize center count d default dictsort e escape filesizeformat first float forceescape format groupby indent int items join last length list lower map max min pprint random reject rejectattr replace reverse round safe select selectattr slice sort string striptags sum title tojson trim truncate unique upper urlencode urlize wordcount wordwrap xmlattr"

/-- The names of the tests. -/
def names : List String :=
  Value.namesIn "boolean callable defined divisibleby eq equalto escaped even false filter float ge greaterthan gt in integer iterable le lessthan lower lt mapping ne none number odd sameas sequence string test true undefined upper == != > >= < <="

/-- Is a value the same object as another one, as far as values tell? -/
def isSame : Value → Value → Bool
  | .null, .null => true
  | .bool a, .bool b => a == b
  | int a, int b => a == b && -5 ≤ a && a ≤ 256
  | text s, text t => s == t && s.length ≤ 1
  | .routine a, .routine b => a == b
  | .constructor a, .constructor b => a == b
  | _, _ => false

/-- Can a value be called? -/
def isCallable : Value → Bool
  | .routine _ | .constructor _ | .method .. | .formatter .. | .undefined _ => true
  | .foreign t => ["TemplateReference", "Cycler", "Joiner", "method_descriptor", "method-wrapper"].contains t
  | _ => false

def isSequence : Value → Bool
  | text _ | .markup _ | list _ | .tuple _ | .dict _ | .range .. | .bytes _ | .group .. => true
  | .undefined a => !a.strict
  | _ => false

def isIterable (v : Value) : Checked Bool :=
  match v with
  | .undefined a => if a.strict then .error a.fault else .ok true
  | v =>
    match v.items with
    | .ok _ => .ok true
    | .error _ => .ok false

def isNumber : Value → Bool
  | .int _ | .bool _ | .float _ => true
  | .foreign t => t == "complex"
  | _ => false

/-- The remainder of a value is compared with a number. -/
def remains (v divisor : Value) (rest : Int) : Checked Bool := do
  Value.equal (← Value.mod v divisor) (int rest)

def isNamed (names : List String) (v : Value) : Checked Bool := do
  Value.checkKey v
  return match v.textOf? with
    | some s => names.contains s
    | none => false

/-- Tests of one value. -/
def unary? (name : String) : Option (String × Nat × (Value → Checked Bool)) :=
  let pure' (f : Value → Bool) (v : Value) : Checked Bool := .ok (f v)
  match name with
  | "odd" => some ("test_odd", 0, fun v => remains v (int 2) 1)
  | "even" => some ("test_even", 0, fun v => remains v (int 2) 0)
  | "defined" => some ("test_defined", 0, pure' fun
    | .undefined _ => false
    | _ => true)
  | "undefined" => some ("test_undefined", 0, pure' fun
    | .undefined _ => true
    | _ => false)
  | "none" => some ("test_none", 0, pure' fun
    | .null => true
    | _ => false)
  | "boolean" => some ("test_boolean", 0, pure' fun
    | .bool _ => true
    | _ => false)
  | "true" => some ("test_true", 0, pure' fun
    | .bool b => b
    | _ => false)
  | "false" => some ("test_false", 0, pure' fun
    | .bool b => !b
    | _ => false)
  | "integer" => some ("test_integer", 0, pure' fun
    | int _ => true
    | _ => false)
  | "float" => some ("test_float", 0, pure' fun
    | .float _ => true
    | _ => false)
  | "string" => some ("test_string", 0, pure' Value.isText)
  | "mapping" => some ("test_mapping", 0, pure' fun
    | .dict _ => true
    | _ => false)
  | "number" => some ("test_number", 0, pure' isNumber)
  | "sequence" => some ("test_sequence", 0, pure' isSequence)
  | "iterable" => some ("test_iterable", 0, isIterable)
  | "escaped" => some ("test_escaped", 0, pure' fun
    | .markup _ => true
    | _ => false)
  | "lower" => some ("test_lower", 0, fun v => do
    return TextMethod.uniform Text.isLower Text.isUpper (← v.shown).toList)
  | "upper" => some ("test_upper", 0, fun v => do
    return TextMethod.uniform Text.isUpper Text.isLower (← v.shown).toList)
  | "filter" => some ("test_filter", 1, isNamed filterNames)
  | "test" => some ("test_test", 1, isNamed names)
  | _ => none

/-- Comparisons with an argument, and the names under which they report. -/
def comparison? (name : String) : Option (String × (Value → Value → Checked Bool)) :=
  match name with
  | "eq" | "equalto" | "==" => some ("eq", Value.equal)
  | "ne" | "!=" => some ("ne", fun v w => do return !(← Value.equal v w))
  | "lt" | "lessthan" | "<" => some ("lt", Value.ordered .lt)
  | "le" | "<=" => some ("le", Value.ordered .le)
  | "gt" | "greaterthan" | ">" => some ("gt", Value.ordered .gt)
  | "ge" | ">=" => some ("ge", Value.ordered .ge)
  | _ => none

/-- The other tests with an argument: their function, the argument's name and what they ask. -/
def binary? (name : String) : Option (String × String × (Value → Value → Checked Bool)) :=
  match name with
  | "divisibleby" => some ("test_divisibleby", "num", fun v n => remains v n 0)
  | "sameas" => some ("test_sameas", "other", fun v w => .ok (isSame v w))
  | "in" => some ("test_in", "seq", fun v s => s.contains v)
  | _ => none

/-- Asks a test of a value; `none` for a name that is no test. -/
def call? (name : String) (v : Value) (args : Arguments) : Option (Checked Bool) :=
  let all : Arguments := { args with positional := v :: args.positional }
  match unary? name with
  | some (function, hidden, ask) => some do
    let _ ← ({ function, hidden, required := ["value"] } : Signature).bind all
    ask v
  | none =>
    match comparison? name with
    | some (function, ask) => some do
      match ← all.between ("_operator." ++ function) function 2 2 with
      | [v, w] => ask v w
      | _ => return false
    | none =>
      match binary? name with
      | some (function, parameter, ask) => some do
        match ← ({ function, required := ["value", parameter] } : Signature).bind all with
        | [v, w] => ask v w
        | _ => return false
      | none =>
        if name == "callable" then some do
          return isCallable (← all.one "callable")
        else none

end Stepwise.Script.Test
