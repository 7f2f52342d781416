import Stepwise.Script.Library
import Stepwise.Script.Method.Data
import Stepwise.Value.Placeholders

/-!
Calls: what happens when a script calls a value.
-/

namespace Stepwise.Script.Call

open Value (text list dict int bool)

/-- The longest range that a script may ask for. -/
def maxRange : Nat := 100000

/-- The numbers between bounds. -/
def range (args : Arguments) : Checked Value := do
  if let (name, _) :: _ := args.named then throw (.unknownKeyword "safe_range" name)
  let values ← args.between "range" "range" 1 3
  let numbers ← values.mapM fun v =>
    match v.intOf? with
    | some n => .ok n
    | none => .error (.notAnInteger v.typeName)
  let (start, stop, step) := match numbers with
    | [stop] => ((0 : Int), stop, (1 : Int))
    | start :: stop :: rest => (start, stop, rest.head?.getD 1)
    | [] => (0, 0, 1)
  if step = 0 then throw (.badArgument "range() arg 3 must not be zero")
  let length := Value.rangeLength start stop step
  if Nat.pow 2 63 ≤ length then throw .intTooLargeForWord
  if maxRange < length then throw .rangeTooBig
  return .range start stop step

/-- A mapping made from another one or from pairs, and from named values. -/
def mapping (args : Arguments) : Checked Value := do
  let start ← match args.positional with
    | [] => pure []
    | [v] => v.toEntries
    | vs => throw (.badCall ("dict expected at most 1 argument, got " ++ toString vs.length))
  return dict (args.named.foldl (fun acc (k, v) => Value.put acc (text k) v) start)

def construct (name : String) (args : Arguments) : Checked Value :=
  match name with
  | "dict" => mapping args
  | "cycler" =>
    if args.positional.isEmpty then .error (.badCall "at least one item has to be provided")
    else .ok (.foreign "Cycler")
  | "joiner" => .ok (.foreign "Joiner")
  | "namespace" => .ok (.foreign "Namespace")
  | t => .ok (.foreign t)

/-- Fills in the placeholders of a text. -/
def format (template : Value) (byMapping : Bool) (args : Arguments) : Checked Value := do
  let source := (template.textOf?).getD ""
  let escapes := match template with
    | .markup _ => true
    | _ => false
  let wrap (s : String) : Value := if escapes then .markup s else text s
  if byMapping then
    if !args.named.isEmpty then throw (.badCall "format_map() takes no keyword arguments")
    match args.positional with
    | [named] => return wrap (← Value.formatted source escapes [] named)
    | vs =>
      throw (.badCall ("format_map() takes exactly one argument (" ++ toString vs.length ++ " given)"))
  else
    return wrap (← Value.formatted source escapes args.positional (Value.ofFields args.named))

def method (receiver : Value) (name : String) (args : Arguments) : Checked Value :=
  let found := match receiver with
    | text s => TextMethod.call? false s name args
    | .markup s => TextMethod.call? true s name args
    | v => DataMethod.call? v name args
  found.getD (.error (.badCall (name ++ "() is not supported")))

def call (callee : Value) (args : Arguments) : Checked Value :=
  match callee with
  | .undefined a => .error a.fault
  | .routine "range" => range args
  | .routine name => (Library.call? name args).getD (.ok (.foreign "str"))
  | .constructor name => construct name args
  | .method receiver name => method receiver name args
  | .formatter template byMapping => format template byMapping args
  | v => .error (.notCallable v.typeName)

end Stepwise.Script.Call
