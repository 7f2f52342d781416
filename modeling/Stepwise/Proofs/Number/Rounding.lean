import Mathlib.Tactic.Linarith
import Mathlib.Tactic.Ring
import Stepwise.Number.Binary64

/-!
How far a quotient moves when it is rounded. Distances are taken in units of the least exponent, so that
everything is said of integers. The order of finite numbers is that of their units.
-/

namespace Stepwise.Binary64

/-! ### Order -/

variable {x y : Binary64}

theorem lt_asymm (before : x.lt y = true) : y.lt x = false := by
  cases x with
  | nan => cases before
  | infinite s =>
      cases y with
      | nan => cases before
      | infinite s' => cases s <;> cases s' <;> first | rfl | cases before
      | finite s' m' e' => cases s <;> first | rfl | cases before
  | finite s m e =>
      cases y with
      | nan => cases before
      | infinite s' => cases s' <;> first | rfl | cases before
      | finite s' m' e' => exact decide_eq_false (Int.lt_asymm (of_decide_eq_true before))

theorem eq_self (number : x.isNan = false) : x.eq x = true := by
  cases x with
  | nan => cases number
  | infinite s => exact beq_self_eq_true s
  | finite s m e => exact beq_self_eq_true _

theorem eq_of_lt (before : x.lt y = true) : y.eq x = false := by
  cases x with
  | nan => cases before
  | infinite s =>
      cases y with
      | nan => cases before
      | infinite s' => cases s <;> cases s' <;> first | rfl | cases before
      | finite s' m' e' => rfl
  | finite s m e =>
      cases y with
      | nan => cases before
      | infinite s' => rfl
      | finite s' m' e' => exact beq_false_of_ne (Int.ne_of_gt (of_decide_eq_true before))

/-! ### Quotients -/

theorem isNan_ofRatio (negative : Bool) (num den : Nat) :
    (ofRatio negative num den).isNan = false := by
  unfold ofRatio
  dsimp only
  split_ifs <;> rfl

/-- The nearest integer is at most half of one away. -/
theorem divNearest_bounds (num : Nat) {den : Nat} (positive : 0 < den) :
    2 * num ≤ 2 * (divNearest num den * den) + den ∧
      2 * (divNearest num den * den) ≤ 2 * num + den := by
  have whole := Nat.div_add_mod' num den
  have rest := Nat.mod_lt num positive
  have next : (num / den + 1) * den = num / den * den + den := by ring
  unfold divNearest
  dsimp only
  split_ifs <;> omega

/-- A quotient below a power of two has a smaller logarithm. -/
theorem floorLog2_lt {num den n : Nat} (small : num < den * 2 ^ n) :
    floorLog2 num den < n := by
  have upper : Nat.log2 num < Nat.log2 den + 1 + n := by
    rcases Nat.eq_zero_or_pos num with rfl | filled
    · rw [Nat.log2_zero]
      omega
    · rw [Nat.log2_lt filled.ne']
      calc num < den * 2 ^ n := small
        _ ≤ 2 ^ (Nat.log2 den + 1) * 2 ^ n := Nat.mul_le_mul_right _ Nat.lt_log2_self.le
        _ = 2 ^ (Nat.log2 den + 1 + n) := (Nat.pow_add ..).symm
  unfold floorLog2
  dsimp only
  by_cases forward : 0 ≤ (Nat.log2 num : Int) - Nat.log2 den
  · simp only [forward, if_true]
    split_ifs with reached
    · have room : den * 2 ^ ((Nat.log2 num : Int) - Nat.log2 den).toNat < den * 2 ^ n :=
        Nat.lt_of_le_of_lt reached small
      have shorter := (Nat.pow_lt_pow_iff_right (by decide)).mp (Nat.lt_of_mul_lt_mul_left room)
      omega
    · omega
  · split_ifs <;> omega

/-- How many units make one. -/
def perOne : Nat := 2 ^ (-minExponent).toNat

theorem perOne_pos : 0 < perOne := Nat.two_pow_pos _

/-- The magnitude in units. -/
def magnitude (mantissa : Nat) (exponent : Int) : Nat :=
  mantissa * 2 ^ (exponent - minExponent).toNat

theorem units_eq (negative : Bool) (mantissa : Nat) (exponent : Int) :
    units negative mantissa exponent =
      if negative then -(magnitude mantissa exponent : Int) else magnitude mantissa exponent := by
  rw [units, magnitude, Nat.cast_mul]
  rfl

theorem perOne_eq {k : Nat} (reach : k ≤ 1074) : perOne = 2 ^ k * 2 ^ (1074 - k) := by
  have exponent : (-minExponent).toNat = k + (1074 - k) := by
    unfold minExponent
    omega
  rw [perOne, exponent, Nat.pow_add]

/-- A mantissa that grows out of its width is halved, and counts twice as much. -/
theorem magnitude_carried {exponent : Int} (reach : minExponent ≤ exponent) :
    magnitude (2 ^ 52) (exponent + 1) = magnitude (2 ^ 53) exponent := by
  have longer : (exponent + 1 - minExponent).toNat = (exponent - minExponent).toNat + 1 := by omega
  rw [magnitude, magnitude, longer, Nat.pow_succ']
  ring

/-- The last bit of a quotient below `2 ^ n` counts `2 ^ -k`, where `k` is no less than `53 - n`. -/
theorem exists_depth {num den n : Nat} (narrow : n ≤ 52) (small : num < den * 2 ^ n) :
    ∃ k : Nat, k ≤ 1074 ∧ 53 - n ≤ k ∧ max (floorLog2 num den - 52) minExponent = -(k : Int) := by
  have below := floorLog2_lt small
  refine ⟨(-max (floorLog2 num den - 52) minExponent).toNat, ?_⟩
  unfold minExponent
  omega

/-- A quotient whose last bit counts `2 ^ -k` is rounded to a whole number of these. -/
theorem exists_ofRatio_eq (negative : Bool) {num den k : Nat} (filled : num ≠ 0) (fractional : 0 < k)
    (deep : k ≤ 1074) (exponent : max (floorLog2 num den - 52) minExponent = -(k : Int)) :
    ∃ m e, ofRatio negative num den = .finite negative m e ∧
      magnitude m e = divNearest (num * 2 ^ k) den * 2 ^ (1074 - k) := by
  have backwards : ¬0 ≤ -(k : Int) := by omega
  have scale : (-(k : Int) - minExponent).toNat = 1074 - k := by
    unfold minExponent
    omega
  rw [ofRatio, if_neg filled, exponent]
  simp only [if_neg backwards, Int.neg_neg, Int.toNat_natCast]
  split_ifs with carried far far
  · unfold maxExponent at far
    omega
  · refine ⟨_, _, rfl, ?_⟩
    have reach : minExponent ≤ -(k : Int) := by
      unfold minExponent
      omega
    refine (magnitude_carried reach).trans ?_
    rw [magnitude, scale]
    exact congrArg (· * _) carried.symm
  · unfold maxExponent at far
    omega
  · refine ⟨_, _, rfl, ?_⟩
    rw [magnitude, scale]
    rfl

/-- Rounding a quotient below `2 ^ n` moves it by at most half of `2 ^ (n - 53)`. -/
theorem exists_ofRatio (negative : Bool) {num den n : Nat} (positive : 0 < den) (narrow : n ≤ 52)
    (small : num < den * 2 ^ n) : ∃ m e, ofRatio negative num den = .finite negative m e ∧
      2 ^ (53 - n) * (2 * (num * perOne)) ≤ 2 ^ (53 - n) * (2 * (magnitude m e * den)) + den * perOne ∧
      2 ^ (53 - n) * (2 * (magnitude m e * den)) ≤
        2 ^ (53 - n) * (2 * (num * perOne)) + den * perOne := by
  by_cases filled : num = 0
  · subst filled
    refine ⟨0, minExponent, rfl, ?_, ?_⟩ <;> simp [magnitude]
  · obtain ⟨k, deep, wide, exponent⟩ := exists_depth narrow small
    obtain ⟨m, e, done, same⟩ := exists_ofRatio_eq negative filled (by omega) deep exponent
    obtain ⟨down, up⟩ := divNearest_bounds (num * 2 ^ k) positive
    have coarse : 2 ^ (53 - n) ≤ 2 ^ k := Nat.pow_le_pow_right (by decide) wide
    refine ⟨m, e, done, ?_⟩
    rw [same, perOne_eq deep]
    generalize divNearest (num * 2 ^ k) den = q at down up ⊢
    generalize 2 ^ (53 - n) = coarser at coarse ⊢
    generalize 2 ^ (1074 - k) = finer
    have gap := Nat.mul_le_mul_right (den * finer) coarse
    have down := Nat.mul_le_mul_right (coarser * finer) down
    have up := Nat.mul_le_mul_right (coarser * finer) up
    constructor <;> linarith

/-- The same of an integer that is divided. -/
theorem exists_units {x : Int} {den n : Nat} (positive : 0 < den) (narrow : n ≤ 52)
    (small : x.natAbs < den * 2 ^ n) : ∃ m e, ofRatio (x < 0) x.natAbs den = .finite (x < 0) m e ∧
      (2 ^ (53 - n) : Nat) * (2 * (x * perOne)) ≤
        (2 ^ (53 - n) : Nat) * (2 * (units (x < 0) m e * den)) + den * perOne ∧
      (2 ^ (53 - n) : Nat) * (2 * (units (x < 0) m e * den)) ≤
        (2 ^ (53 - n) : Nat) * (2 * (x * perOne)) + den * perOne := by
  obtain ⟨m, e, done, down, up⟩ := exists_ofRatio (x < 0) positive narrow small
  refine ⟨m, e, done, ?_⟩
  rw [units_eq]
  generalize magnitude m e = size at down up ⊢
  generalize 2 ^ (53 - n) = coarser at down up ⊢
  zify at down up
  by_cases negative : x < 0
  · rw [abs_of_neg negative] at down up
    simp only [negative, decide_true, if_true]
    constructor <;> linarith
  · rw [abs_of_nonneg (by omega)] at down up
    simp only [negative, decide_false, Bool.false_eq_true, if_false]
    constructor <;> linarith

/-- Integers below `den * 2 ^ n` stay apart when they are divided, if `den` is below `2 ^ (53 - n)`. -/
theorem ofRatio_lt {x y : Int} {den n : Nat} (positive : 0 < den) (narrow : n ≤ 52)
    (fine : den < 2 ^ (53 - n)) (smallX : x.natAbs < den * 2 ^ n) (smallY : y.natAbs < den * 2 ^ n)
    (before : x < y) : (ofRatio (x < 0) x.natAbs den).lt (ofRatio (y < 0) y.natAbs den) = true := by
  obtain ⟨m, e, doneX, -, up⟩ := exists_units positive narrow smallX
  obtain ⟨m', e', doneY, down, -⟩ := exists_units positive narrow smallY
  rw [doneX, doneY]
  refine decide_eq_true (Int.lt_of_not_ge fun behind => ?_)
  have one : (0 : Int) < perOne := Int.natCast_pos.mpr perOne_pos
  have room : (0 : Int) ≤ (2 ^ (53 - n) : Nat) := Int.natCast_nonneg _
  have fine : (den : Int) < (2 ^ (53 - n) : Nat) := Int.ofNat_lt.mpr fine
  generalize units (x < 0) m e = u at up behind
  generalize units (y < 0) m' e' = v at down behind
  generalize ((2 ^ (53 - n) : Nat) : Int) = coarser at *
  generalize (perOne : Int) = unit at *
  have ordered : coarser * (2 * (v * den)) ≤ coarser * (2 * (u * den)) := by gcongr
  have apart : coarser * (2 * ((x + 1) * unit)) ≤ coarser * (2 * (y * unit)) := by
    gcongr
    omega
  have overlap : coarser * unit ≤ den * unit := by linarith
  exact absurd (Int.le_of_mul_le_mul_right overlap one) (by omega)

end Stepwise.Binary64
