import Stepwise.Reference.Path

/-!
References: texts that stand for a value among the inputs of a run or among the outputs of earlier
steps.
-/

namespace Stepwise

/-- Where a reference looks. -/
inductive Scope where
  | input
  | steps
  deriving DecidableEq, Repr, Inhabited

namespace Scope

def all : List Scope := [input, steps]

def name : Scope → String
  | input => "input"
  | steps => "steps"

/-- What a reference in this scope begins with, before its path. -/
def opening (scope : Scope) : List Char := scope.name.toList ++ ['.']

end Scope

structure Reference where
  /-- The reference as it is written. -/
  raw : String
  scope : Scope
  path : Path
  deriving DecidableEq, Repr, Inhabited

namespace Reference

/-- The first key of the path: for the outputs of steps, the id of the step. -/
def head? (r : Reference) : Option String := r.path.head?

/-- What stands after a text. -/
def after? : List Char → List Char → Option (List Char)
  | [], s => some s
  | c :: opening, d :: s => if c = d then after? opening s else none
  | _ :: _, [] => none

/-- A scope whose opening a text has, and the text of the path after it. -/
def scoped? (s : List Char) : Option (Scope × List Char) :=
  Scope.all.findSome? fun scope => (after? scope.opening s).map fun rest => (scope, rest)

/-- The reference that a whole text is, if it is one. -/
def ofText (s : String) : Checked (Option Reference) :=
  match s.toList with
  | '$' :: rest =>
    match scoped? rest with
    | some (scope, path) => do return some ⟨s, scope, ← Path.ofChars path⟩
    | none => .ok none
  | _ => .ok none

/-- The reference that a value is, if it is one. -/
def ofValue (v : Value) : Checked (Option Reference) :=
  match v.textOf? with
  | some s => ofText s
  | none => .ok none

end Reference

end Stepwise
