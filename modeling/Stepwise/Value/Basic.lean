import Stepwise.Number.Decimal
import Stepwise.Fault

/-!
Values: the data that steps take in and give out, and the further things that a script can hold
while it runs.
-/

namespace Stepwise

/-- What a lookup that found nothing leaves behind. A strict absence refuses to be used. -/
structure Absence where
  /-- What is reported when it is used. -/
  fault : Fault
  strict : Bool := true
  deriving DecidableEq, Repr, Inhabited

/-- Which part of a mapping a view shows. -/
inductive ViewPart where
  | keys
  | values
  | items
  deriving DecidableEq, Repr, Inhabited

/-- A value. The first eight constructors but for `markup` are plain data; a script can produce the
others as well. -/
inductive Value where
  | null
  | bool (flag : Bool)
  | int (n : Int)
  | float (x : Binary64)
  | text (s : String)
  | list (items : List Value)
  | tuple (items : List Value)
  /-- Entries in the order in which their keys were first put in; no two keys are equal. -/
  | dict (entries : List (Value × Value))
  /-- Text whose markup is already escaped. -/
  | markup (s : String)
  | undefined (absence : Absence)
  /-- Items that are handed out once, one at a time, up to a fault if there is one. -/
  | stream (typeName : String) (items : List Value) (failure : Option Fault)
  | range (start stop step : Int)
  | view (part : ViewPart) (entries : List (Value × Value))
  /-- One group of a grouping: its key and its members. -/
  | group (key : Value) (members : List Value)
  | bytes (data : List UInt8)
  /-- A built-in method of a value, not yet called. -/
  | method (receiver : Value) (name : String)
  /-- A text's formatting method, not yet called. -/
  | formatter (template : Value) (byMapping : Bool)
  /-- A function that scripts can call by name. -/
  | routine (name : String)
  /-- A type that scripts can call by name. -/
  | constructor (name : String)
  /-- A value that scripts can hold and pass on, but of which they can use only the type. -/
  | foreign (typeName : String)
  deriving Inhabited

/-- Named values in order. -/
abbrev Fields := List (String × Value)

/-- The entries of a mapping, in order. -/
abbrev Entries := List (Value × Value)

namespace Value

def ofFields (fields : Fields) : Value := .dict (fields.map fun (k, v) => (.text k, v))

def typeName : Value → String
  | null => "NoneType"
  | bool _ => "bool"
  | int _ => "int"
  | float _ => "float"
  | text _ => "str"
  | list _ => "list"
  | tuple _ => "tuple"
  | dict _ => "dict"
  | markup _ => "Markup"
  | undefined a => if a.strict then "StrictUndefined" else "Undefined"
  | stream t _ _ => t
  | range .. => "range"
  | view .keys _ => "dict_keys"
  | view .values _ => "dict_values"
  | view .items _ => "dict_items"
  | group .. => "_GroupTuple"
  | bytes _ => "bytes"
  | method .. => "builtin_function_or_method"
  | formatter .. => "function"
  | routine _ => "function"
  | constructor _ => "type"
  | foreign t => t

/-- The text of a plain or escaped text. -/
def textOf? : Value → Option String
  | text s => some s
  | markup s => some s
  | _ => none

def isText (v : Value) : Bool := v.textOf?.isSome

/-- The whole number that a truth value or an integer stands for. -/
def intOf? : Value → Option Int
  | int n => some n
  | bool b => some (if b then 1 else 0)
  | _ => none

/-- The items of a tuple or of a group. -/
def tupleOf? : Value → Option (List Value)
  | tuple items => some items
  | group key members => some [key, .list members]
  | _ => none

/-- How many numbers a range holds. -/
def rangeLength (start stop step : Int) : Nat :=
  if 0 < step then ((stop - start + step - 1).fdiv step).toNat
  else if step < 0 then ((start - stop - step - 1).fdiv (-step)).toNat
  else 0

def rangeItems (start stop step : Int) : List Value :=
  (List.range (rangeLength start stop step)).map fun (i : Nat) => .int (start + step * (i : Int))

def viewItems (part : ViewPart) (entries : List (Value × Value)) : List Value :=
  match part with
  | .keys => entries.map (·.1)
  | .values => entries.map (·.2)
  | .items => entries.map fun (k, v) => .tuple [k, v]

/-- Only plain data, at every depth. -/
def isPlain : Value → Bool
  | null | bool _ | int _ | float _ | text _ => true
  | list items => plainAll items
  | tuple items => plainAll items
  | dict entries => plainEntries entries
  | _ => false
where
  plainAll : List Value → Bool
    | [] => true
    | v :: rest => v.isPlain && plainAll rest
  plainEntries : List (Value × Value) → Bool
    | [] => true
    | (k, v) :: rest => k.isPlain && v.isPlain && plainEntries rest

/-- How deeply lists, tuples and mappings are nested. -/
def depth : Value → Nat
  | list items => depthAll items + 1
  | tuple items => depthAll items + 1
  | dict entries => depthEntries entries + 1
  | _ => 0
where
  depthAll : List Value → Nat
    | [] => 0
    | v :: rest => max v.depth (depthAll rest)
  depthEntries : List (Value × Value) → Nat
    | [] => 0
    | (_, v) :: rest => max v.depth (depthEntries rest)

end Value

end Stepwise
