import Stepwise.Value.Compare

/-!
Named values: looking a name up, setting it and merging.
-/

namespace Stepwise.Fields

/-- The value of a name. -/
def get? (fields : Fields) (name : String) : Option Value :=
  (fields.find? (·.1 == name)).map (·.2)

def has (fields : Fields) (name : String) : Bool := fields.any (·.1 == name)

/-- The value of a name, or nothing. -/
def getD (fields : Fields) (name : String) : Value := (get? fields name).getD .null

/-- Sets a name; one that is there already keeps its place. -/
def set (fields : Fields) (name : String) (v : Value) : Fields :=
  if has fields name then fields.map fun f => if f.1 == name then (f.1, v) else f
  else fields ++ [(name, v)]

/-- Sets all names of the second fields in the first. -/
def merge (fields others : Fields) : Fields :=
  others.foldl (fun acc f => set acc f.1 f.2) fields

def names (fields : Fields) : List String := fields.map (·.1)

/-- The names that two fields share, in order. -/
def shared (fields others : Fields) : List String :=
  ((names fields).filter (has others)).mergeSort fun a b => a ≤ b

end Stepwise.Fields
