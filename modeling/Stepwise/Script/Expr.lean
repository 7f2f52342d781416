import Stepwise.Value.Compare

/-!
Expressions: what a script is written in.
-/

namespace Stepwise.Script

inductive UnaryOp where
  | negate
  | keep
  deriving DecidableEq, Repr, Inhabited

inductive BinaryOp where
  | add
  | sub
  | mul
  | div
  | floorDiv
  | mod
  | pow
  deriving DecidableEq, Repr, Inhabited

/-- The tests that a chain of comparisons is made of. -/
inductive ComparisonOp where
  | order (test : OrderTest)
  | eq
  | ne
  | member
  | notMember
  deriving DecidableEq, Repr, Inhabited

inductive Expr where
  | name (s : String)
  | literal (v : Value)
  | tuple (items : List Expr)
  | list (items : List Expr)
  | dict (entries : List (Expr × Expr))
  | unary (op : UnaryOp) (e : Expr)
  | binary (op : BinaryOp) (left right : Expr)
  /-- The texts of all parts, one after the other. -/
  | concat (parts : List Expr)
  | compare (first : Expr) (rest : List (ComparisonOp × Expr))
  | not (e : Expr)
  | and (left right : Expr)
  | or (left right : Expr)
  /-- The choice between two expressions; without the second there is nothing to choose. -/
  | choice (test yes : Expr) (no : Option Expr) (line : Nat)
  | attribute (e : Expr) (name : String)
  | item (e key : Expr)
  | slice (e : Expr) (start stop step : Option Expr)
  /-- Bounds inside a subscript of several parts, where they stand for a value of their own. -/
  | bounds (start stop step : Option Expr)
  | call (e : Expr) (args : List Expr) (keywords : List (String × Expr)) (spread : Option Expr)
      (spreadNamed : Option Expr)
  | filter (e : Expr) (name : String) (args : List Expr) (keywords : List (String × Expr))
      (spread : Option Expr) (spreadNamed : Option Expr)
  | test (e : Expr) (name : String) (args : List Expr) (keywords : List (String × Expr))
      (spread : Option Expr) (spreadNamed : Option Expr)
  deriving Inhabited

end Stepwise.Script
