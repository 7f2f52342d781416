import Stepwise.Number.Decimal
import Stepwise.Proofs.Number.Whole

/-!
Numbers in tenths. A quotient of whole numbers is rounded when it is computed and again when it is written
with one place; together that is no more than half a tenth.
-/

namespace Stepwise

/-! ### Digits -/

namespace Decimal

theorem natText_of_tens {t : Nat} (least : 10 ≤ t) :
    natText t = natText (t / 10) ++ [Nat.digitChar (t % 10)] := by
  have several : ¬t < 10 := Nat.not_lt.mpr least
  rw [natText, Nat.toDigits_eq_if (by decide), if_neg several]
  rfl

theorem natText_digit {d : Nat} (small : d < 10) : natText d = [Nat.digitChar d] := by
  rw [natText, Nat.toDigits_eq_if (by decide), if_pos small]

theorem isDigit_of_mem_natText {n : Nat} {c : Char} (member : c ∈ natText n) : c.isDigit = true :=
  Nat.isDigit_of_mem_toDigits (by decide) (Nat.le_refl 10) member

theorem natText_injective : Function.Injective natText := by
  intro m n same
  have read (k : Nat) : Nat.ofDigitChars 10 (natText k) 0 = k :=
    Nat.ofDigitChars_toDigits (by decide) (by decide)
  rw [← read m, same, read]

/-- The number of a sign and a magnitude. -/
def signed (negative : Bool) (t : Nat) : Int := if negative then -t else t

theorem natAbs_signed (negative : Bool) (t : Nat) : (signed negative t).natAbs = t := by
  cases negative <;> simp [signed]

theorem signed_neg_iff {negative : Bool} {t : Nat} (filled : 0 < t) :
    signed negative t < 0 ↔ negative = true := by
  cases negative <;> simp [signed, filled]

/-- A number of tenths: a sign, the digits before the point, and the one behind it unless that is a zero. -/
def tenthsText (t : Int) : String :=
  Binary64.signText (t < 0) ++ natString (t.natAbs / 10) ++
    if t.natAbs % 10 = 0 then "" else "." ++ natString (t.natAbs % 10)

/-- What stands behind the digits before the point. -/
def fraction (d : Nat) : List Char := if d = 0 then [] else '.' :: natText d

theorem fraction_injective : Function.Injective fraction := by
  intro c d same
  unfold fraction at same
  split_ifs at same with none nothing
  · rw [none, nothing]
  · exact natText_injective (List.cons.inj same).2

theorem toList_tenthsText (t : Int) : (tenthsText t).toList =
    (Binary64.signText (t < 0)).toList ++ (natText (t.natAbs / 10) ++ fraction (t.natAbs % 10)) := by
  rw [tenthsText, String.toList_append, String.toList_append, natString, String.toList_ofList,
    List.append_assoc, fraction]
  split_ifs with round
  · rfl
  · rw [String.toList_append, natString, String.toList_ofList, String.toList_ofList]
    rfl

theorem takeWhile_isDigit (n d : Nat) : (natText n ++ fraction d).takeWhile Char.isDigit = natText n := by
  rw [List.takeWhile_append_of_pos fun c member => isDigit_of_mem_natText member, fraction]
  split_ifs <;> simp

/-- The text tells the number. -/
theorem tenthsText_injective : Function.Injective tenthsText := by
  intro s t same
  have chars := congrArg String.toList same
  rw [toList_tenthsText, toList_tenthsText] at chars
  have apart (n d : Nat) (more : List Char) : '-' :: more ≠ natText n ++ fraction d := by
    intro alike
    have front := takeWhile_isDigit n d
    rw [← alike] at front
    exact Nat.toDigits_ne_nil front.symm
  have numbers (sign : s < 0 ↔ t < 0) : s = t := by
    rw [decide_eq_decide.mpr sign] at chars
    have digits := List.append_cancel_left chars
    have front := congrArg (List.takeWhile Char.isDigit) digits
    rw [takeWhile_isDigit, takeWhile_isDigit] at front
    rw [front] at digits
    have tens := natText_injective front
    have rest := fraction_injective (List.append_cancel_left digits)
    omega
  by_cases low : s < 0 <;> by_cases lower : t < 0
  · exact numbers (iff_of_true low lower)
  · rw [decide_eq_true low, decide_eq_false lower] at chars
    exact absurd chars (apart _ _ _)
  · rw [decide_eq_false low, decide_eq_true lower] at chars
    exact absurd chars.symm (apart _ _ _)
  · exact numbers (iff_of_false low lower)

end Decimal

/-! ### Quotients in tenths -/

namespace Binary64

open Decimal (natText)

variable {x : Binary64} {negative : Bool} {m : Nat} {e : Int}

/-- How many tenths are nearest to the magnitude of a number. -/
def tenths : Binary64 → Nat
  | .finite _ m e => divNearest ((ratio m e).1 * 10) (ratio m e).2
  | _ => 0

/-- Distances of a quotient from its rounding, and from there to its tenths, add up. -/
theorem tenths_bounds {a size unit rounded t : Nat} (one : 0 < unit) (narrow : size < 2 ^ 39)
    (down : 2 ^ 44 * (a * unit) ≤ 2 ^ 44 * (rounded * size) + size * unit)
    (up : 2 ^ 44 * (rounded * size) ≤ 2 ^ 44 * (a * unit) + size * unit)
    (floor : 20 * rounded ≤ 2 * (t * unit) + unit) (ceiling : 2 * (t * unit) ≤ 20 * rounded + unit) :
    20 * a ≤ 2 * (t * size) + size ∧ 2 * (t * size) ≤ 20 * a + size := by
  have least : 2 ^ 44 * (20 * a) ≤ 2 ^ 44 * (2 * (t * size) + size) + 20 * size := by
    refine Nat.le_of_mul_le_mul_right ?_ one
    have scaled := Nat.mul_le_mul_left (2 ^ 44 * size) floor
    linarith
  have most : 2 ^ 44 * (2 * (t * size)) ≤ 2 ^ 44 * (20 * a + size) + 20 * size := by
    refine Nat.le_of_mul_le_mul_right ?_ one
    have scaled := Nat.mul_le_mul_left (2 ^ 44 * size) ceiling
    linarith
  -- The error of the first rounding comes to less than one, and all else here is whole.
  generalize t * size = counted at least most ⊢
  omega

/-- The tenths of a quotient are no more than half a tenth away from it. -/
theorem tenths_div {y : Binary64} {a size : Nat} (upper : IsWhole x negative a) (lower : IsWhole y false size)
    (positive : 0 < size) (narrow : size < 2 ^ 39) (small : a < size * 2 ^ 10) :
    ∃ m e, x.div y = .finite negative m e ∧ 20 * a ≤ 2 * ((x.div y).tenths * size) + size ∧
      2 * ((x.div y).tenths * size) ≤ 20 * a + size := by
  obtain ⟨common, shared, divided⟩ := div_of_isWhole upper lower positive
  have smaller : a * common < size * common * 2 ^ 10 := by
    rw [Nat.mul_right_comm]
    exact Nat.mul_lt_mul_of_pos_right small shared
  obtain ⟨m, e, done, down, up⟩ :=
    exists_ofRatio negative (Nat.mul_pos positive shared) (by decide) smaller
  have whole := magnitude_mul_ratio m (minExponent_le_of_ofRatio done)
  have pos : 0 < (ratio m e).2 := ratio_pos
  obtain ⟨floor, ceiling⟩ := divNearest_bounds ((ratio m e).1 * 10) pos
  have scale : 53 - 10 = 43 := rfl
  rw [scale] at down up
  rw [← divided] at done
  have count : (x.div y).tenths = divNearest ((ratio m e).1 * 10) (ratio m e).2 := by rw [done, tenths]
  refine ⟨m, e, done, ?_⟩
  rw [count]
  generalize divNearest ((ratio m e).1 * 10) (ratio m e).2 = t at floor ceiling ⊢
  have below : 2 ^ 44 * (a * perOne) ≤ 2 ^ 44 * (magnitude m e * size) + size * perOne :=
    Nat.le_of_mul_le_mul_right (by linarith) shared
  have above : 2 ^ 44 * (magnitude m e * size) ≤ 2 ^ 44 * (a * perOne) + size * perOne :=
    Nat.le_of_mul_le_mul_right (by linarith) shared
  have least : 20 * magnitude m e ≤ 2 * (t * perOne) + perOne := by
    refine Nat.le_of_mul_le_mul_right ?_ pos
    have scaled := Nat.mul_le_mul_right perOne floor
    linarith
  have most : 2 * (t * perOne) ≤ 20 * magnitude m e + perOne := by
    refine Nat.le_of_mul_le_mul_right ?_ pos
    have scaled := Nat.mul_le_mul_right perOne ceiling
    linarith
  exact tenths_bounds perOne_pos narrow below above least most

/-- With one place, a number that is not below one is written as its tenths are. -/
theorem fixed_one (known : x = .finite negative m e) (least : 10 ≤ x.tenths) :
    (x.fixed 1).toList = (signText negative).toList ++ natText (x.tenths / 10) ++
      ['.', Nat.digitChar (x.tenths % 10)] := by
  have places : Nat.pow 10 1 = 10 := rfl
  subst known
  rw [tenths] at least ⊢
  generalize counted : divNearest ((ratio m e).1 * 10) (ratio m e).2 = t at least ⊢
  have filled : 0 < (natText (t / 10)).length := List.length_pos_iff.mpr Nat.toDigits_ne_nil
  have size : (natText t).length = (natText (t / 10)).length + 1 := by
    rw [Decimal.natText_of_tens least, List.length_append, List.length_singleton]
  have none : 1 + 1 - (natText t).length = 0 := by omega
  rw [fixed, magnitudeFixed]
  dsimp only
  rw [places, counted, none, Decimal.zeros, List.replicate_zero, List.nil_append, if_neg Nat.one_ne_zero, size,
    Nat.add_sub_cancel, Decimal.natText_of_tens least, List.take_left, List.drop_left]
  simp [String.toList_append]

end Binary64

end Stepwise
