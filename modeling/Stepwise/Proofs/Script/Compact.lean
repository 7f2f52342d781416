import Mathlib.Algebra.Order.Field.Rat
import Mathlib.Data.List.Find
import Mathlib.Tactic.Linarith
import Mathlib.Tactic.NormNum
import Stepwise.Proofs.Number.Tenths
import Stepwise.Script.Library

/-!
Compact numbers. A whole number from a thousand on is written in thousands, millions or billions with one
place, and no zero there: a sign, digits and a unit. The number written is no more than a twentieth of the
unit off.
-/

namespace Stepwise.Script.Library

open Decimal (natText tenthsText signed)
open Binary64 (IsWhole tenths)
open Value (int)

/-! ### Places -/

variable {front : List Char} {last : Char} {x : Binary64} {negative : Bool} {m : Nat} {e : Int}

theorem stripZeros_of_digit (filled : last ≠ '0') (digit : last ≠ '.') :
    stripZeros (front ++ ['.', last]) = front ++ ['.', last] := by
  simp [stripZeros, filled, digit]

theorem stripZeros_of_zero (digit : last ≠ '.') :
    stripZeros (front ++ [last] ++ ['.', '0']) = front ++ [last] := by
  simp [stripZeros, digit]

/-- A place of zero goes, and the point with it. -/
theorem compactPlaces_of_tenths (finite : x = .finite negative m e) (least : 10 ≤ x.tenths) :
    compactPlaces x = tenthsText (signed negative x.tenths) := by
  have written := Binary64.fixed_one finite least
  generalize x.tenths = t at least written ⊢
  have sign : decide (signed negative t < 0) = negative := by
    rw [Bool.eq_iff_iff, decide_eq_true_eq, Decimal.signed_neg_iff (by omega)]
  have small : t % 10 < 10 := Nat.mod_lt t (by decide)
  have apart {c : Char} (digit : c.isDigit = true) : c ≠ '.' := by
    rintro rfl
    cases digit
  rw [compactPlaces, written, tenthsText, Decimal.natAbs_signed, sign, ← String.toList_inj, String.toList_ofList,
    String.toList_append, String.toList_append, Decimal.natString, String.toList_ofList]
  by_cases round : t % 10 = 0
  · rcases List.eq_nil_or_concat (natText (t / 10)) with none | ⟨body, last, whole⟩
    · exact absurd none Nat.toDigits_ne_nil
    · rw [List.concat_eq_append] at whole
      have digit : last.isDigit = true := by
        refine Decimal.isDigit_of_mem_natText (n := t / 10) ?_
        rw [whole]
        exact List.mem_append_right body (List.mem_singleton_self last)
      have zero : Nat.digitChar 0 = '0' := rfl
      rw [whole, round, zero, ← List.append_assoc, stripZeros_of_zero (apart digit)]
      simp
  · have filled : Nat.digitChar (t % 10) ≠ '0' := by simpa using round
    have digit : (Nat.digitChar (t % 10)).isDigit = true := by simp [Nat.isDigit_digitChar, small]
    rw [stripZeros_of_digit filled (apart digit), if_neg round, String.toList_append, Decimal.natString,
      String.toList_ofList, Decimal.natText_digit small, String.toList_ofList]
    rfl

/-! ### Units -/

theorem unit_bounds {size : Nat} {name : String} (member : (size, name) ∈ units) :
    1000 ≤ size ∧ size ≤ 1000000000 := by
  have all : ∀ u ∈ units, 1000 ≤ u.1 ∧ u.1 ≤ 1000000000 := by decide
  exact all _ member

/-- The unit of a number is the greatest one that is not above it. -/
theorem exists_unit {a : Nat} (least : 1000 ≤ a) (most : a < 10 ^ 12) :
    ∃ size name, units.find? (fun u => u.1 ≤ a) = some (size, name) ∧ size ≤ a ∧ a < 1000 * size := by
  by_cases billions : 1000000000 ≤ a
  · exact ⟨1000000000, "B", by simp [units, billions], billions, by omega⟩
  by_cases millions : 1000000 ≤ a
  · exact ⟨1000000, "M", by simp [units, billions, millions], millions, by omega⟩
  · exact ⟨1000, "K", by simp [units, billions, millions, least], least, by omega⟩

/-- Tenths that are half of one off: a unit has ten, and less than a thousand units ten thousand at most. -/
theorem tenths_range {a t size : Nat} (floor : 20 * a ≤ 2 * (t * size) + size)
    (ceiling : 2 * (t * size) ≤ 20 * a + size) (reached : size ≤ a) (within : a < 1000 * size) :
    10 ≤ t ∧ (20 * a < 19999 * size → t < 10000) ∧ (19999 * size < 20 * a → t = 10000) := by
  have atLeast {k : Nat} (enough : 2 * ((k - 1) * size) + size < 20 * a) : k ≤ t := by
    by_contra few
    have short : t * size ≤ (k - 1) * size := Nat.mul_le_mul_right size (by omega)
    omega
  have atMost {k : Nat} (enough : 20 * a + size < 2 * ((k + 1) * size)) : t ≤ k := by
    by_contra many
    have long : (k + 1) * size ≤ t * size := Nat.mul_le_mul_right size (by omega)
    omega
  refine ⟨atLeast (by omega), fun short => ?_, fun long => ?_⟩
  · have bound : t ≤ 9999 := atMost (by omega)
    omega
  · exact Nat.le_antisymm (atMost (by omega)) (atLeast (by omega))

/-- With its sign, the number of tenths has the sign of the whole number, and is half of one off at most. -/
theorem signed_tenths {n : Int} {t size : Nat} (filled : 0 < t) (least : 0 < n.natAbs)
    (floor : 20 * n.natAbs ≤ 2 * (t * size) + size) (ceiling : 2 * (t * size) ≤ 20 * n.natAbs + size) :
    (signed (n < 0) t).sign = n.sign ∧ |(signed (n < 0) t / 10 : ℚ)| = t / 10 ∧
      |(signed (n < 0) t / 10 : ℚ) * size - n| ≤ size / 20 := by
  obtain ⟨a, rfl | rfl⟩ := n.eq_nat_or_neg
  all_goals
    simp only [Int.natAbs_neg, Int.natAbs_natCast] at least floor ceiling
    have low : (20 * a : ℚ) ≤ 2 * (t * size) + size := mod_cast floor
    have high : (2 * (t * size) : ℚ) ≤ 20 * a + size := mod_cast ceiling
    have near : |(t / 10 : ℚ) * size - a| ≤ size / 20 := by
      rw [abs_le]
      constructor <;> linarith
    have whole : (0 : ℚ) ≤ t / 10 := div_nonneg t.cast_nonneg (by norm_num)
  · have value : signed ((a : Int) < 0) t = t := if_neg (by simp)
    rw [value, Int.sign_eq_one_of_pos (by omega), Int.sign_eq_one_of_pos (by omega)]
    exact ⟨rfl, abs_of_nonneg whole, near⟩
  · have value : signed (-(a : Int) < 0) t = -t := if_pos (by simpa using least)
    rw [value, Int.sign_eq_neg_one_of_neg (by omega), Int.sign_eq_neg_one_of_neg (by omega)]
    push_cast
    rw [neg_div, abs_neg, abs_of_nonneg whole, neg_mul, neg_sub_neg, abs_sub_comm]
    exact ⟨trivial, rfl, near⟩

/-- How many tenths of a unit a number is written with. -/
def tenthsOf (n : Int) (size : Nat) : Nat := ((Binary64.ofInt n).div (.ofInt size)).tenths

/-- A whole number is written in tenths of its unit, counted from the rounded quotient. -/
theorem formatNumber_int {n : Int} (least : 1000 ≤ n.natAbs) (most : n.natAbs < 10 ^ 12) :
    ∃ size name, (size, name) ∈ units ∧ size ≤ n.natAbs ∧ n.natAbs < 1000 * size ∧
      formatNumber (int n) = .ok (tenthsText (signed (n < 0) (tenthsOf n size)) ++ name) ∧
      20 * n.natAbs ≤ 2 * (tenthsOf n size * size) + size ∧
      2 * (tenthsOf n size * size) ≤ 20 * n.natAbs + size := by
  have whole : IsWhole (.ofInt n) (n < 0) n.natAbs := Binary64.isWhole_ofInt (by omega)
  have unitWhole {size : Nat} (narrow : size ≤ 1000000000) : IsWhole (.ofInt size) false size := by
    have kept := Binary64.isWhole_ofInt (n := size) (by omega)
    rwa [decide_eq_false (by omega), Int.natAbs_natCast] at kept
  obtain ⟨size, name, found, reached, within⟩ := exists_unit least most
  have member := List.mem_of_find?_eq_some found
  obtain ⟨low, high⟩ := unit_bounds member
  have chosen : units.find? (fun u => (Binary64.ofInt u.1).le (Binary64.ofInt n).abs) = some (size, name) := by
    rw [← found]
    refine List.find?_congr fun u known => ?_
    exact Binary64.le_abs_of_isWhole (unitWhole (unit_bounds known).2) whole
  obtain ⟨m, e, divided, floor, ceiling⟩ :=
    Binary64.tenths_div whole (unitWhole high) (by omega) (by omega) (by omega)
  rw [← tenthsOf] at floor ceiling
  have several := (tenths_range floor ceiling reached within).1
  have real : (int n).toFloat = .ok (Binary64.ofInt n) := by
    obtain ⟨m', e', same, -⟩ := whole
    rw [Value.toFloat, Value.floatOfInt, Binary64.ofInt?, same]
  refine ⟨size, name, member, reached, within, ?_, floor, ceiling⟩
  rw [formatNumber, real]
  dsimp only
  rw [compactNumber, chosen]
  dsimp only
  rw [compactPlaces_of_tenths divided several, tenthsOf]

/-- Numbers that are, to the nearest tenth, a thousand of a unit that is not the greatest one. -/
def Carries (n : Int) : Prop := (999950 ≤ |n| ∧ |n| < 10 ^ 6) ∨ (999950000 ≤ |n| ∧ |n| < 10 ^ 9)

/-- A whole number from a thousand on is written as a number of tenths and a unit. The number has the sign
of the whole one, is at least one, and is no more than half a tenth off. It is below a thousand if no tenth is
carried so far; where there is no greater unit it may come to a thousand. -/
theorem compact_of_int (n : Int) (least : 1000 ≤ |n|) (most : |n| < 10 ^ 12) :
    ∃ size name, (size, name) ∈ units ∧ ∃ t : Int, formatNumber (int n) = .ok (tenthsText t ++ name) ∧
      t.sign = n.sign ∧ 1 ≤ |(t / 10 : ℚ)| ∧ |(t / 10 : ℚ) * size - n| ≤ size / 20 ∧
      (¬Carries n → |n| < 999950000000 → |(t / 10 : ℚ)| < 1000) ∧
      (999950000000 ≤ |n| → |(t / 10 : ℚ)| = 1000 ∧ name = "B") := by
  rw [Int.abs_eq_natAbs] at least most
  obtain ⟨size, name, member, reached, within, written, floor, ceiling⟩ :=
    formatNumber_int (n := n) (by omega) (by omega)
  obtain ⟨several, short, full⟩ := tenths_range floor ceiling reached within
  obtain ⟨sign, value, near⟩ := signed_tenths (by omega) (by omega) floor ceiling
  have known : (size = 1000000000 ∧ name = "B") ∨ (size = 1000000 ∧ name = "M") ∨
      size = 1000 ∧ name = "K" := by
    simpa [units] using member
  refine ⟨size, name, member, _, written, sign, ?_, near, fun carried small => ?_, fun large => ?_⟩
  · have filled : (10 : ℚ) ≤ tenthsOf n size := mod_cast several
    rw [value]
    linarith
  · rw [Carries, Int.abs_eq_natAbs] at carried
    rw [Int.abs_eq_natAbs] at small
    have bound : (tenthsOf n size : ℚ) < 10000 := mod_cast short (by omega)
    rw [value]
    linarith
  · rw [Int.abs_eq_natAbs] at large
    have top : size = 1000000000 ∧ name = "B" := by
      rcases known with top | ⟨rfl, -⟩ | ⟨rfl, -⟩
      · exact top
      · omega
      · omega
    obtain ⟨rfl, rfl⟩ := top
    have bound : tenthsOf n 1000000000 = 10000 := by
      rcases Nat.lt_or_eq_of_le (show 999950000000 ≤ n.natAbs by omega) with above | tie
      · exact full (by omega)
      · obtain rfl | rfl : n = 999950000000 ∨ n = -999950000000 := by omega
        · decide +kernel
        · decide +kernel
    rw [value, bound]
    norm_num

theorem compact_of_int_negative :
    (1000 ≤ |(-1234567 : Int)| ∧ |(-1234567 : Int)| < 10 ^ 12 ∧ ¬Carries (-1234567)) ∧
    ∃ size name, (size, name) ∈ units ∧ ∃ t : Int,
      formatNumber (int (-1234567)) = .ok (tenthsText t ++ name) ∧ t.sign = -1 ∧
      |(t / 10 : ℚ) * size - (-1234567 : Int)| ≤ size / 20 ∧ |(t / 10 : ℚ)| < 1000 := by
  have least : 1000 ≤ |(-1234567 : Int)| := by decide
  have most : |(-1234567 : Int)| < 10 ^ 12 := by decide
  have carried : ¬Carries (-1234567) := by
    unfold Carries
    decide
  obtain ⟨size, name, member, t, written, sign, -, near, short, -⟩ := compact_of_int (-1234567) least most
  exact ⟨⟨least, most, carried⟩, size, name, member, t, written, sign, near, short carried (by decide)⟩

example : formatNumber (int 3400000) = .ok "3.4M" := by decide +kernel

/-- The text tells the number and the unit. -/
theorem compact_injective {size size' : Nat} {name name' : String} {t t' : Int} (member : (size, name) ∈ units)
    (member' : (size', name') ∈ units) (same : tenthsText t ++ name = tenthsText t' ++ name') :
    t = t' ∧ name = name' := by
  have letter : ∀ u ∈ units, u.2.toList.length = 1 := by decide
  have chars := congrArg String.toList same
  rw [String.toList_append, String.toList_append] at chars
  obtain ⟨front, back⟩ := List.append_inj' chars ((letter _ member).trans (letter _ member').symm)
  exact ⟨Decimal.tenthsText_injective (String.toList_inj.mp front), String.toList_inj.mp back⟩

/-- In the greatest unit a number may come to a thousand. -/
theorem formatNumber_thousand_billions : formatNumber (int 999950000000) = .ok "1000B" ∧
    ∀ size name (t : Int), (size, name) ∈ units →
      formatNumber (int 999950000000) = .ok (tenthsText t ++ name) → ¬|(t / 10 : ℚ)| < 1000 := by
  have written : formatNumber (int 999950000000) = .ok "1000B" := by decide +kernel
  refine ⟨written, fun size name t member same => ?_⟩
  have billions : (1000000000, "B") ∈ units := by decide
  have thousand : "1000B" = tenthsText 10000 ++ "B" := by decide +kernel
  rw [written, thousand, Except.ok.injEq] at same
  obtain ⟨rfl, -⟩ := compact_injective billions member same
  norm_num

end Stepwise.Script.Library
