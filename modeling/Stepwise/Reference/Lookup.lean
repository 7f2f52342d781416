import Stepwise.Reference.Path

/-!
Lookup of paths in values. What is not there is null.
-/

namespace Stepwise

/-- The name that a segment has in a mapping. -/
def Segment.name? : Segment → Option String
  | .key name => some name
  | .index n => some (Nat.repr n)
  | .each => none

namespace Value

/-- The items of a list or tuple. -/
def sequence? : Value → Option (List Value)
  | list items => some items
  | v => v.tupleOf?

/-- The part of a value that a segment names. -/
def child (v : Value) (segment : Segment) : Value :=
  match v with
  | dict entries => ((segment.name?).bind (lookupText? entries)).getD null
  | _ =>
    match segment, v.sequence? with
    | .index n, some items => items[n]?.getD null
    | _, _ => null

/-- Lists among the values give way to their items. -/
def spliced : List Value → List Value
  | [] => []
  | list items :: rest => items ++ spliced rest
  | v :: rest => v :: spliced rest

/-- The part of a value at the end of a path. -/
def lookup : Path → Value → Value
  | [], v => v
  | .each :: rest, v =>
    match v.sequence? with
    | none => null
    | some items =>
      let found := items.map (lookup rest)
      list (if Path.hasEach rest then spliced found else found)
  | segment :: rest, v => lookup rest (v.child segment)

/-- Nothing is found in nothing. -/
theorem lookup_null (path : Path) : lookup path null = null := by
  induction path with
  | nil => rfl
  | cons segment rest ih =>
    cases segment with
    | key name => simpa [lookup, child, sequence?, tupleOf?] using ih
    | index n => simpa [lookup, child, sequence?, tupleOf?] using ih
    | each => simp [lookup, sequence?, tupleOf?]

end Value

end Stepwise
