import Stepwise.Script.Library
import Stepwise.Script.Method.Text
import Stepwise.Value.Subscript

/-!
Filters on sequences: picking, sorting, grouping, cutting into rows. Those that hand out their items
one at a time report a fault only where the item is taken that brings it about.
-/

namespace Stepwise.Script.SequenceFilter

open Value (text list tuple int bool)

/-! ### Streams -/

/-- Items up to a fault. -/
structure Flow where
  items : List Value := []
  failure : Option Fault := none

def Flow.toValue (f : Flow) : Value := .stream "generator" f.items f.failure

def Flow.failed (fault : Fault) : Flow := ⟨[], some fault⟩

/-- The items of a value as a flow; a value without items fails at once. -/
def Flow.of (v : Value) : Flow :=
  match v.items with
  | .ok (items, failure) => ⟨items, failure⟩
  | .error fault => .failed fault

/-- Maps or drops each item, up to the first fault. -/
def Flow.filterMap (f : Value → Checked (Option Value)) (flow : Flow) : Flow :=
  go flow.items
where
  go : List Value → Flow
    | [] => ⟨[], flow.failure⟩
    | v :: rest =>
      match f v with
      | .error fault => .failed fault
      | .ok none => go rest
      | .ok (some w) =>
        let more := go rest
        ⟨w :: more.items, more.failure⟩

/-! ### Paths of attributes -/

/-- Which part of each item a filter looks at. -/
structure Getter where
  path : List Value := []
  /-- What stands in for an absent part. -/
  default : Option Value := none
  /-- Compare texts without regard to case. -/
  ignoreCase : Bool := false

/-- A text without regard to case; any other value as it is. -/
def foldCase : Value → Value
  | text s => text (Text.lowerString s)
  | .markup s => .markup (Text.lowerString s)
  | v => v

/-- The steps of a path: names and numbers between points. -/
def pathOf (part : Value) : Checked (List Value) :=
  match part with
  | .null => .ok []
  | text s | .markup s =>
    (s.splitOn ".").mapM fun token =>
      if !token.isEmpty && token.toList.all Text.isDigit then do
        return int (← Value.readInt 10 token)
      else .ok (text token)
  | v => .ok [v]

def Getter.ofAttribute (part : Value) (ignoreCase : Bool) : Checked Getter := do
  return { path := ← pathOf part, ignoreCase }

def step (default : Option Value) (item part : Value) : Checked Value := do
  let found ← item.getItem part
  match found, default with
  | .undefined _, some v => return v
  | _, _ => return found

def Getter.get (g : Getter) (item : Value) : Checked Value := do
  let found ← g.path.foldlM (step g.default) item
  return if g.ignoreCase then foldCase found else found

def caseFolded (caseSensitive : Value) : Checked Bool := do return !(← caseSensitive.truthy)

/-! ### Ends -/

def first (v : Value) : Checked Value := do
  match ← v.items with
  | (item :: _, _) => return item
  | ([], some fault) => throw fault
  | ([], none) => return Value.absence "No first item, sequence was empty."

/-- The items from the last one on; `none` where they come in one direction only. -/
def backward? : Value → Option (Checked (List Value))
  | .undefined a => some (if a.strict then .error a.fault else .ok [])
  | v@(text _) | v@(.markup _) | v@(list _) | v@(tuple _) | v@(.dict _) | v@(.view ..)
  | v@(.bytes _) | v@(.range ..) | v@(.group ..) => some do return (← v.allItems).reverse
  | _ => none

def last (v : Value) : Checked Value := do
  match backward? v with
  | none => throw (.badCall ("'" ++ v.typeName ++ "' object is not reversible"))
  | some items =>
    match ← items with
    | item :: _ => return item
    | [] => return Value.absence "No last item, sequence was empty."

/-- What a reversed value is called. -/
def backwardName : Value → String
  | list _ => "list_reverseiterator"
  | .range .. => "range_iterator"
  | .dict _ | .view .keys _ => "dict_reversekeyiterator"
  | .view .values _ => "dict_reversevalueiterator"
  | .view .items _ => "dict_reverseitemiterator"
  | _ => "reversed"

def reverse (v : Value) : Checked Value :=
  match v with
  | text s => .ok (text (String.ofList s.toList.reverse))
  | .markup s => .ok (.markup (String.ofList s.toList.reverse))
  | v =>
    match backward? v with
    | some items => do return .stream (backwardName v) (← items) none
    | none =>
      match v.allItems with
      | .ok items => .ok (list items.reverse)
      | .error fault =>
        if fault.family == .type then .error (.filterArgument "argument must be iterable")
        else .error fault

/-! ### Order -/

/-- Sorts by one or more parts of each item. -/
def sort (v reverse caseSensitive part : Value) : Checked Value := do
  let fold ← caseFolded caseSensitive
  let getters ← match part with
    | text s | .markup s => (s.splitOn ",").mapM fun part => Getter.ofAttribute (text part) fold
    | a => do pure [← Getter.ofAttribute a fold]
  let items ← v.allItems
  let descending ← Library.direction reverse
  let keyed ← items.mapM fun item => do
    return (list (← getters.mapM fun g => g.get item), item)
  return list (← Library.sortByKeys descending keyed)

/-- The entries of a mapping, sorted by key or by value. -/
def dictSort (v caseSensitive by' reverse : Value) : Checked Value := do
  let byValue ←
    if ← Value.equal by' (text "key") then pure false
    else if ← Value.equal by' (text "value") then pure true
    else throw (.filterArgument "You can only sort by either \"key\" or \"value\"")
  match v with
  | .dict entries =>
    let descending ← Library.direction reverse
    let keyed ← entries.mapM fun (k, w) => do
      let part := if byValue then w else k
      let key := if ← caseSensitive.truthy then part else foldCase part
      return (key, tuple [k, w])
    return list (← Library.sortByKeys descending keyed)
  | .undefined a => throw a.fault
  | v => throw (.noAttribute v.typeName "items")

/-- The item whose part is greatest, or least. -/
def extreme (greatest : Bool) (v caseSensitive part : Value) : Checked Value := do
  let (items, failure) ← v.items
  match items, failure with
  | [], some fault => throw fault
  | [], none => return Value.absence "No aggregated item, sequence was empty."
  | item :: rest, _ =>
    let getter ← Getter.ofAttribute part (← caseFolded caseSensitive)
    let start ← getter.get item
    let best ← rest.foldlM (fun (best : Value × Value) other => do
      let key ← getter.get other
      let better ← Value.ordered (if greatest then .gt else .lt) key best.1
      return if better then (key, other) else best) (start, item)
    match failure with
    | some fault => throw fault
    | none => return best.2

/-- Items whose parts have not come up before. -/
def unique (v caseSensitive part : Value) : Value :=
  match (do Getter.ofAttribute part (← caseFolded caseSensitive) : Checked Getter) with
  | .error fault => (Flow.failed fault).toValue
  | .ok getter =>
    let flow := Flow.of v
    (go getter [] flow.failure flow.items).toValue
where
  go (getter : Getter) (seen : List Value) (failure : Option Fault) : List Value → Flow
    | [] => ⟨[], failure⟩
    | item :: rest =>
      match (do
        let key ← getter.get item
        Value.checkKey key
        return key : Checked Value) with
      | .error fault => .failed fault
      | .ok key =>
        if seen.any fun k => Value.sameKey k key then go getter seen failure rest
        else
          let more := go getter (key :: seen) failure rest
          ⟨item :: more.items, more.failure⟩

/-! ### Groups -/

/-- Neighbours with equal keys, together. -/
def runs : List (Value × Value) → Checked (List (Value × List Value))
  | [] => .ok []
  | (key, item) :: rest => do
    match ← runs rest with
    | [] => return [(key, [item])]
    | (next, members) :: more =>
      if ← Value.equalInside key next then return (key, item :: members) :: more
      else return (key, [item]) :: (next, members) :: more

/-- Items sorted by a part and put together where it is equal. Each group bears the part of its
first member. -/
def groupBy (v part default caseSensitive : Value) : Checked Value := do
  let default := match default with
    | .null => none
    | d => some d
  let getter : Getter := { path := ← pathOf part, default, ignoreCase := ← caseFolded caseSensitive }
  let items ← v.allItems
  let keyed ← items.mapM fun item => do return (← getter.get item, item)
  let sorted ← Library.sortByKeys false keyed
  let groups ← runs (← sorted.mapM fun item => do return (← getter.get item, item))
  let output := { getter with ignoreCase := false }
  return list (← groups.mapM fun (key, members) => do
    match members with
    | item :: _ => return .group (← output.get item) members
    | [] => return .group key members)

/-! ### Rows -/

/-- Rows of a length; the last one may be filled up. -/
def batch (v count fill : Value) : Value :=
  let flow := Flow.of v
  (go flow.failure [] flow.items).toValue
where
  rest (row : List Value) : Checked (List Value) := do
    if row.isEmpty then return []
    match fill with
    | .null => return [list row]
    | fill =>
      let length := int row.length
      if ← Value.ordered .lt length count then
        return [← Value.add (list row) (← Value.mul (list [fill]) (← Value.sub count length))]
      else return [list row]
  go (failure : Option Fault) (row : List Value) : List Value → Flow
    | [] =>
      match failure, rest row with
      | some fault, _ => .failed fault
      | none, .error fault => .failed fault
      | none, .ok rows => ⟨rows, none⟩
    | item :: more =>
      match Value.equal (int row.length) count with
      | .error fault => .failed fault
      | .ok true =>
        let next := go failure [item] more
        ⟨list row :: next.items, next.failure⟩
      | .ok false => go failure (row ++ [item]) more

/-- A count of rows as even as possible, the longer ones first; the others may be filled up. -/
def slice (v count fill : Value) : Value :=
  match (do
    let items ← v.allItems
    let _ ← Value.floorDiv (int items.length) count
    match count.intOf? with
    | none => throw (.notAnInteger count.typeName)
    | some n => return (items, n) : Checked (List Value × Int)) with
  | .error fault => (Flow.failed fault).toValue
  | .ok (items, n) => (Flow.mk (go items n.toNat (items.length / n.toNat) (items.length % n.toNat) 0) none).toValue
where
  go (items : List Value) : Nat → Nat → Nat → Nat → List Value
    | 0, _, _, _ => []
    | slices + 1, size, longer, row =>
      let take := if row < longer then size + 1 else size
      let cells := items.take take
      let filled := match fill with
        | .null => cells
        | fill => if row < longer then cells else cells ++ [fill]
      list filled :: go (items.drop take) slices size longer (row + 1)

/-! ### Sums and joins -/

def parts (v part : Value) : Checked Flow := do
  match part with
  | .null =>
    let (items, failure) ← v.items
    return ⟨items, failure⟩
  | a =>
    let getter ← Getter.ofAttribute a false
    let (items, failure) ← v.items
    return (Flow.mk items failure).filterMap fun item => do return some (← getter.get item)

def sum (v part start : Value) : Checked Value := do
  let flow ← parts v part
  match start with
  | text _ | .markup _ => throw (.badCall "sum() can't sum strings [use ''.join(seq) instead]")
  | .bytes _ => throw (.badCall "sum() can't sum bytes [use b''.join(seq) instead]")
  | _ => pure ()
  let result ← flow.items.foldlM Value.add start
  match flow.failure with
  | some fault => throw fault
  | none => return result

def join (v separator part : Value) : Checked Value := do
  match part with
  | .null =>
    let separator ← separator.shown
    let flow ← parts v .null
    joined separator flow
  | a =>
    let flow ← parts v a
    let separator ← separator.shown
    joined separator flow
where
  joined (separator : String) (flow : Flow) : Checked Value := do
    let shown ← flow.items.mapM Value.shown
    match flow.failure with
    | some fault => throw fault
    | none => return text (separator.intercalate shown)

/-- The entries of a mapping, one at a time. -/
def entries (v : Value) : Value :=
  match v with
  | .undefined _ => ({} : Flow).toValue
  | .dict entries => (Flow.mk (entries.map fun (k, w) => tuple [k, w]) none).toValue
  | _ => (Flow.failed (.badCall "Can only get item pairs from a mapping.")).toValue

end Stepwise.Script.SequenceFilter
