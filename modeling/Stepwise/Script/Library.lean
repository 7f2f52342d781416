import Stepwise.Script.Arguments
import Stepwise.Value.Arithmetic
import Stepwise.Value.Attribute
import Stepwise.Value.Sorting

/-!
The functions that scripts can call: compact numbers, sorting and grouping by a field, and sums,
averages and medians. What is no number is left out of the latter.
-/

namespace Stepwise.Script.Library

open Value (text list dict int bool float)

/-! ### Compact numbers -/

/-- The thresholds above which a number is written in a larger unit, the greatest first. -/
def units : List (Nat × String) := [(1000000000, "B"), (1000000, "M"), (1000, "K")]

def stripZeros (s : List Char) : List Char :=
  let kept := s.reverse.dropWhile (· == '0')
  (kept.dropWhile (· == '.')).reverse

/-- One place, without a zero there. -/
def compactPlaces (x : Binary64) : String := String.ofList (stripZeros (x.fixed 1).toList)

/-- A number in the largest unit that it reaches; below all units, whole numbers have no point. -/
def compactNumber (x : Binary64) : String :=
  match units.find? fun u => (Binary64.ofInt u.1).le x.abs with
  | some (size, name) => compactPlaces (x.div (Binary64.ofInt size)) ++ name
  | none =>
    if x.isInteger then Decimal.intString ((x.toInt?).getD 0) else x.text

/-- A number, or a text that writes one, in compact form; anything else as it is shown. -/
def formatNumber (v : Value) : Checked String :=
  match v.toFloat with
  | .ok x => .ok (compactNumber x)
  | .error fault =>
    match fault.family with
    | .type | .value => v.shown
    | _ => .error fault

/-! ### Fields -/

/-- A field of an item: the value under a key of a mapping, an attribute of anything else. -/
def field (item key : Value) : Checked Value :=
  match item with
  | dict entries => do
    Value.checkKey key
    return (Value.lookup? entries key).getD .null
  | _ =>
    match key.textOf? with
    | none => .error (.badCall ("attribute name must be string, not '" ++ key.typeName ++ "'"))
    | some name =>
      match item with
      | .undefined a =>
        if Value.commonReserved.contains name then .ok (.foreign "method-wrapper")
        else if name.startsWith "__" then .ok .null
        else .error a.fault
      | _ => .ok ((item.attribute? name).getD .null)

/-- The items of a value that counts as true; otherwise none. -/
def itemsOrNone (v : Value) : Checked (List Value) := do
  if ← v.truthy then v.allItems else return []

theorem itemsOrNone_list (items : List Value) : itemsOrNone (list items) = .ok items := by
  cases items <;> rfl

/-- Is the sort to go down? -/
def direction (v : Value) : Checked Bool :=
  match v.intOf? with
  | some n => if -(Nat.pow 2 31) ≤ n ∧ n < Nat.pow 2 31 then .ok (n != 0) else .error .intTooLargeForInt
  | none => .error (.notAnInteger v.typeName)

/-- What items are sorted by: whether there is a value at all, and the value. -/
def fieldKey (item key : Value) : Checked Value := do
  let v ← field item key
  return .tuple [bool (match v with
    | .null => false
    | _ => true), v]

/-- Sorts items by keys, which may fail to be comparable. -/
def sortByKeys (descending : Bool) (keyed : List (Value × Value)) : Checked (List Value) := do
  let sorted ← Sorting.sortDirected (fun a b => Value.ordered .lt a.1 b.1) descending keyed
  return sorted.map (·.2)

/-- Items in the order of a field. Those without a value come first, or last in the other
direction. -/
def sortBy (items key reverse : Value) : Checked Value := do
  let xs ← itemsOrNone items
  let descending ← direction reverse
  let keyed ← xs.mapM fun item => do
    let k ← fieldKey item key
    return (k, item)
  return list (← sortByKeys descending keyed)

/-- Adds an item to the group of a name. -/
def addToGroup (groups : List (Value × Value)) (name : String) (item : Value) :
    List (Value × Value) :=
  match Value.lookupText? groups name with
  | some (list members) => Value.put groups (text name) (list (members ++ [item]))
  | _ => Value.put groups (text name) (list [item])

/-- Items in groups by the text of a field, in the order in which the groups begin. -/
def groupBy (items key : Value) : Checked Value := do
  let xs ← itemsOrNone items
  let groups ← xs.foldlM (fun groups item => do
    let name ← (← field item key).shown
    return addToGroup groups name item) []
  return dict groups

/-! ### Numbers -/

/-- The numbers among the items, truth values excepted. -/
def numbers (v : Value) : Checked (List Binary64) := do
  let xs ← itemsOrNone v
  let found ← xs.mapM fun
    | int n => do return some (← Value.floatOfInt n)
    | float x => return some x
    | _ => return none
  return found.filterMap id

/-- The sum from the left. -/
def sumOf (xs : List Binary64) : Binary64 := xs.foldl Binary64.add Binary64.zero

def total (v : Value) : Checked Value := do
  match ← numbers v with
  | [] => return int 0
  | xs => return float (sumOf xs)

def average (v : Value) : Checked Value := do
  match ← numbers v with
  | [] => return int 0
  | xs => return float ((sumOf xs).div (Binary64.ofInt xs.length))

/-- The middle of a sorted list, or the mean of the two in the middle. -/
def middle (xs : List Binary64) : Binary64 :=
  let n := xs.length
  let upper := xs[n / 2]?.getD Binary64.zero
  if n % 2 = 1 then upper
  else ((xs[n / 2 - 1]?.getD Binary64.zero).add upper).div (Binary64.ofInt 2)

def median (v : Value) : Checked Value := do
  match ← numbers v with
  | [] => return int 0
  | xs =>
    let sorted ← Sorting.sort (fun a b => .ok (Binary64.lt a b)) xs
    return float (middle sorted)

/-! ### Calls -/

/-- The names of the functions. -/
def names : List String := ["format_number", "sort_by", "group_by", "sum", "average", "median"]

/-- Calls a function; `none` for a name that is none of them. -/
def call? (name : String) (args : Arguments) : Option (Checked Value) :=
  match name with
  | "format_number" => some do
    match ← ({ function := name, required := ["value"] } : Signature).bind args with
    | [v] => return text (← formatNumber v)
    | _ => return .null
  | "sort_by" => some do
    match ← ({ function := name, required := ["items", "key"],
               optional := [("reverse", bool false)] } : Signature).bind args with
    | [items, key, reverse] => sortBy items key reverse
    | _ => return .null
  | "group_by" => some do
    match ← ({ function := name, required := ["items", "key"] } : Signature).bind args with
    | [items, key] => groupBy items key
    | _ => return .null
  | "sum" => single "total" total
  | "average" => single name average
  | "median" => single name median
  | _ => none
where
  single (function : String) (f : Value → Checked Value) : Option (Checked Value) := some do
    match ← ({ function, required := ["values"] } : Signature).bind args with
    | [v] => f v
    | _ => return .null

end Stepwise.Script.Library
