import Mathlib.Data.String.Basic
import Stepwise.Value.Compare

/-!
Values of one kind are compared as what they stand for: integers and truth values as integers, plain and
escaped texts as texts.
-/

namespace Stepwise.Value

variable {v w : Value}

/-- Truth values, integers and texts. -/
inductive Simple : Value → Prop
  | bool (flag : Bool) : Simple (bool flag)
  | int (n : Int) : Simple (int n)
  | text (s : String) : Simple (text s)
  | markup (s : String) : Simple (markup s)

theorem simple_of_intOf? {n : Int} (read : v.intOf? = some n) : Simple v := by
  cases v with
  | bool flag => exact .bool flag
  | int n => exact .int n
  | _ => cases read

theorem simple_of_textOf? {s : String} (read : v.textOf? = some s) : Simple v := by
  cases v with
  | text s => exact .text s
  | markup s => exact .markup s
  | _ => cases read

theorem equalInside_of_simple (left : Simple v) (right : Simple w) :
    equalInside v w = .ok ((sameScalar? v w).getD false) := by
  cases left <;> cases right <;>
    simp only [equalInside, equal.equalItem, equal.isNanPair, equal, absentFault?, sameKey, Bool.not_false,
      Bool.and_true, Bool.false_eq_true, if_false]

theorem ordered_of_simple (test : OrderTest) (left : Simple v) (right : Simple w) : ordered test v w =
    match v.numeric?, w.numeric? with
    | some a, some b => .ok (((a.compare? b).map test.accepts).getD false)
    | _, _ =>
      match v.textOf?, w.textOf? with
      | some s, some t => .ok (test.accepts (compareText s t))
      | _, _ => ordered.unordered test v w := by
  cases left <;> cases right <;> exact ordered.eq_def ..

/-- Two pairs are ordered by their first items where these differ, else by their second ones. -/
theorem ordered_pair (a b v w : Value) : ordered .lt (tuple [a, v]) (tuple [b, w]) = (do
    if ← equalInside a b then
      if ← equalInside v w then .ok false else ordered .lt v w
    else ordered .lt a b) := by
  have pair : ordered .lt (tuple [a, v]) (tuple [b, w]) = ordered.orderedAll .lt [a, v] [b, w] := by
    rw [ordered]
    rfl
  rw [pair, ordered.orderedAll, ordered.orderedAll, ordered.orderedAll]
  rfl

/-! ### Kinds of values -/

/-- What is read off the values of a kind tells how they compare, and nothing is read off the absent one. -/
structure Scale {β : Type} [LinearOrder β] (read : Value → Option β) : Prop where
  null : read null = none
  equal {v w : Value} {x y : β} (left : read v = some x) (right : read w = some y) :
    equalInside v w = .ok (decide (x = y))
  less {v w : Value} {x y : β} (left : read v = some x) (right : read w = some y) :
    ordered .lt v w = .ok (decide (x < y))

theorem numeric?_of_intOf? {n : Int} (read : v.intOf? = some n) : v.numeric? = some (.int n) := by
  cases v with
  | bool flag => exact congrArg (some ∘ Numeric.int) (Option.some.inj read)
  | int n => exact congrArg (some ∘ Numeric.int) (Option.some.inj read)
  | _ => cases read

theorem scale_intOf? : Scale intOf? where
  null := rfl
  equal {v w x y} left right := by
    rw [equalInside_of_simple (simple_of_intOf? left) (simple_of_intOf? right), sameScalar?,
      numeric?_of_intOf? left, numeric?_of_intOf? right]
    have same : (some (compare x y) == some Ordering.eq) = decide (x = y) := by
      rw [Bool.eq_iff_iff, beq_iff_eq, Option.some_inj, compare_eq_iff_eq, decide_eq_true_eq]
    exact congrArg Except.ok same
  less {v w x y} left right := by
    rw [ordered_of_simple .lt (simple_of_intOf? left) (simple_of_intOf? right),
      numeric?_of_intOf? left, numeric?_of_intOf? right]
    have below : OrderTest.lt.accepts (compare x y) = decide (x < y) := by
      rw [OrderTest.accepts, Bool.eq_iff_iff, beq_iff_eq, compare_lt_iff_lt, decide_eq_true_eq]
    exact congrArg Except.ok below

theorem numeric?_of_textOf? {s : String} (read : v.textOf? = some s) : v.numeric? = none := by
  cases v with
  | text s => rfl
  | markup s => rfl
  | _ => cases read

theorem scale_textOf? : Scale textOf? where
  null := rfl
  equal {v w s t} left right := by
    rw [equalInside_of_simple (simple_of_textOf? left) (simple_of_textOf? right), sameScalar?,
      numeric?_of_textOf? left, numeric?_of_textOf? right, left, right]
    rfl
  less {v w s t} left right := by
    rw [ordered_of_simple .lt (simple_of_textOf? left) (simple_of_textOf? right),
      numeric?_of_textOf? left, numeric?_of_textOf? right, left, right]
    have below : OrderTest.lt.accepts (compareText s t) = decide (s < t) := by
      rw [OrderTest.accepts, compareText, Bool.eq_iff_iff, beq_iff_eq, compareOfLessAndEq_eq_lt,
        decide_eq_true_eq]
    exact congrArg Except.ok below

end Stepwise.Value
