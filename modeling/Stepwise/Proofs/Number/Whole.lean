import Stepwise.Proofs.Number.Rounding

/-!
Whole numbers of few bits are kept as they are: they compare as integers do, and their quotient is that of the
integers, rounded once.
-/

namespace Stepwise.Binary64

variable {x : Binary64} {negative : Bool} {mantissa : Nat} {exponent : Int}

/-! ### Finite numbers -/

theorem minExponent_le_of_ofRatio {s : Bool} {num den : Nat}
    (done : ofRatio s num den = .finite negative mantissa exponent) : minExponent ≤ exponent := by
  unfold ofRatio at done
  dsimp only at done
  split_ifs at done <;> cases done <;> omega

theorem ratio_pos : 0 < (ratio mantissa exponent).2 := by
  unfold ratio
  split_ifs
  · exact Nat.one_pos
  · exact Nat.two_pow_pos _

/-- The magnitude in units, as a quotient of integers. -/
theorem magnitude_mul_ratio (mantissa : Nat) (reach : minExponent ≤ exponent) :
    magnitude mantissa exponent * (ratio mantissa exponent).2 = (ratio mantissa exponent).1 * perOne := by
  unfold ratio
  split_ifs with whole
  · have scale : (exponent - minExponent).toNat = exponent.toNat + (-minExponent).toNat := by
      unfold minExponent
      omega
    rw [magnitude, perOne, scale, Nat.pow_add, Nat.mul_one, Nat.mul_assoc]
    rfl
  · have scale : (-minExponent).toNat = (exponent - minExponent).toNat + (-exponent).toNat := by omega
    rw [magnitude, perOne, scale, Nat.pow_add, ← Nat.mul_assoc]
    rfl

/-! ### Whole numbers -/

/-- The finite number of a sign and a whole magnitude. -/
def IsWhole (x : Binary64) (negative : Bool) (a : Nat) : Prop :=
  ∃ m e, x = .finite negative m e ∧ minExponent ≤ e ∧ magnitude m e = a * perOne

theorem ratio_of_whole {a : Nat} (reach : minExponent ≤ exponent)
    (size : magnitude mantissa exponent = a * perOne) :
    (ratio mantissa exponent).1 = a * (ratio mantissa exponent).2 := by
  have whole := magnitude_mul_ratio mantissa reach
  rw [size, Nat.mul_right_comm] at whole
  exact (Nat.eq_of_mul_eq_mul_right perOne_pos whole).symm

theorem divNearest_one (num : Nat) : divNearest num 1 = num := by
  simp [divNearest, Nat.mod_one]

theorem isWhole_ofInt {n : Int} (narrow : n.natAbs < 2 ^ 52) : IsWhole (ofInt n) (n < 0) n.natAbs := by
  rcases Nat.eq_zero_or_pos n.natAbs with none | filled
  · rw [ofInt, none]
    exact ⟨0, minExponent, rfl, le_refl _, by simp [magnitude]⟩
  · have small : n.natAbs < 1 * 2 ^ 52 := by omega
    obtain ⟨k, deep, fractional, least⟩ := exists_depth (le_refl 52) small
    obtain ⟨m, e, done, size⟩ := exists_ofRatio_eq (n < 0) filled.ne' fractional deep least
    refine ⟨m, e, done, minExponent_le_of_ofRatio done, ?_⟩
    rw [size, divNearest_one, perOne_eq deep, Nat.mul_assoc]

theorem le_abs_of_isWhole {y : Binary64} {a b : Nat} (low : IsWhole x false a) (high : IsWhole y negative b) :
    x.le y.abs = decide (a ≤ b) := by
  obtain ⟨m, e, rfl, -, sizeX⟩ := low
  obtain ⟨m', e', rfl, -, sizeY⟩ := high
  have one := perOne_pos
  rw [abs, le, lt, eq, units_eq, units_eq, sizeX, sizeY, Bool.eq_iff_iff]
  simp only [Bool.false_eq_true, if_false, Bool.or_eq_true, decide_eq_true_eq, beq_iff_eq, Int.ofNat_lt,
    Int.ofNat_inj, Nat.mul_lt_mul_right one, Nat.mul_left_inj one.ne']
  omega

/-- A whole number divided by another one is the quotient of the integers, rounded. What the two fractions
have in common is not taken out before. -/
theorem div_of_isWhole {y : Binary64} {a size : Nat} (upper : IsWhole x negative a)
    (lower : IsWhole y false size) (positive : 0 < size) :
    ∃ common, 0 < common ∧ x.div y = ofRatio negative (a * common) (size * common) := by
  obtain ⟨m, e, rfl, reach, sizeX⟩ := upper
  obtain ⟨m', e', rfl, reach', sizeY⟩ := lower
  have top := ratio_of_whole reach sizeX
  have bottom := ratio_of_whole reach' sizeY
  have filled : (ratio m' e').1 ≠ 0 := by
    rw [bottom]
    exact (Nat.mul_pos positive ratio_pos).ne'
  refine ⟨(ratio m e).2 * (ratio m' e').2, Nat.mul_pos ratio_pos ratio_pos, ?_⟩
  have unfolded : (finite negative m e).div (finite false m' e') =
      ofRatio negative ((ratio m e).1 * (ratio m' e').2) ((ratio m e).2 * (ratio m' e').1) := by
    rw [div]
    dsimp only
    rw [if_neg filled, Bool.bne_false]
  rw [unfolded, top, bottom, Nat.mul_assoc, Nat.mul_left_comm size]

end Stepwise.Binary64
