import Mathlib.Data.List.Basic
import Stepwise.Proofs.Reference.Index
import Stepwise.Text.Class

/-!
What an identifier may begin with: neither a blank nor a decimal digit.
-/

namespace Stepwise.Text

namespace Runs

variable {bounds : Array Nat} {code : Nat}

/-- The search ends between two neighbouring bounds, or at an end of the table. -/
theorem rank_between {low high : Nat} (fuel : Nat) (ordered : low ≤ high) (inside : high ≤ bounds.size)
    (enough : high - low ≤ fuel) (below : low = 0 ∨ bounds[low - 1]?.getD 0 ≤ code)
    (above : high = bounds.size ∨ code < bounds[high]?.getD 0) :
    rank bounds code fuel low high ≤ bounds.size ∧
      (rank bounds code fuel low high = 0 ∨
        bounds[rank bounds code fuel low high - 1]?.getD 0 ≤ code) ∧
      (rank bounds code fuel low high = bounds.size ∨
        code < bounds[rank bounds code fuel low high]?.getD 0) := by
  induction fuel generalizing low high with
  | zero =>
      have same : low = high := by omega
      rw [rank]
      exact ⟨by omega, below, same ▸ above⟩
  | succ fuel ih =>
      rw [rank]
      by_cases done : high ≤ low
      · have same : low = high := by omega
        rw [if_pos done]
        exact ⟨by omega, below, same ▸ above⟩
      · rw [if_neg done]
        dsimp only
        split
        · rename_i le
          exact ih (by omega) inside (by omega) (Or.inr (by rwa [Nat.add_sub_cancel])) above
        · rename_i gt
          exact ih (by omega) (by omega) (by omega) below (Or.inr (Nat.lt_of_not_le gt))

/-- The stretches inside a set, by where each begins and ends. -/
def stretches : List Nat → List (Nat × Nat)
  | first :: last :: rest => (first, last) :: stretches rest
  | _ => []

theorem mem_stretches {ends : List Nat} {i : Nat} (inside : 2 * i + 1 < ends.length) :
    (ends[2 * i]?.getD 0, ends[2 * i + 1]?.getD 0) ∈ stretches ends := by
  induction ends using stretches.induct generalizing i with
  | case1 first last rest ih =>
      rw [stretches]
      cases i with
      | zero => exact List.mem_cons_self
      | succ i =>
          refine List.mem_cons_of_mem _ (ih ?_)
          rw [List.length_cons, List.length_cons] at inside
          omega
  | case2 ends short =>
      cases ends with
      | nil => cases inside
      | cons first rest =>
          cases rest with
          | nil => rw [List.length_singleton] at inside; omega
          | cons last rest => exact absurd rfl (short first last rest)

theorem length_ends {start : Nat} {lengths : List Nat} :
    (ends start lengths).length = lengths.length := by
  induction lengths generalizing start with
  | nil => rfl
  | cons n rest ih => rw [ends, List.length_cons, List.length_cons, ih]

/-- What a set that is bounded contains lies in one of its stretches. -/
theorem exists_stretch {lengths : List Nat} (bounded : lengths.length % 2 = 0) {c : Char}
    (inside : (ofLengths lengths).contains c = true) :
    ∃ r ∈ stretches (ends 0 lengths), r.1 ≤ c.toNat ∧ c.toNat < r.2 := by
  rw [contains, beq_iff_eq] at inside
  obtain ⟨within, below, above⟩ :=
    @rank_between (ofLengths lengths).bounds c.toNat 0 (ofLengths lengths).bounds.size
      ((ofLengths lengths).bounds.size + 1) (Nat.zero_le _) le_rfl (by omega) (Or.inl rfl)
      (Or.inl rfl)
  revert within below above inside
  generalize rank _ _ _ _ _ = k
  intro odd within below above
  have size : (ofLengths lengths).bounds.size = lengths.length := by
    rw [ofLengths, List.size_toArray, length_ends]
  rw [size] at within above
  obtain ⟨i, rfl⟩ : ∃ i, k = 2 * i + 1 := ⟨k / 2, by omega⟩
  refine ⟨_, mem_stretches (i := i) (by rw [length_ends]; omega), ?_, ?_⟩
  · have low := below.resolve_left (by omega)
    rwa [Nat.add_sub_cancel, ofLengths, List.getElem?_toArray] at low
  · have high := above.resolve_left (by omega)
    rwa [ofLengths, List.getElem?_toArray] at high

end Runs

/-! ### First characters -/

/-- Beyond ASCII the stretches of first characters hold no digits. -/
theorem starts_apart_digits : (Runs.stretches (Runs.ends 0 ClassTable.startRuns)).all (fun r =>
    digitZeros.all fun z => Nat.ble (z + 10) r.1 || Nat.ble r.2 z) = true := by
  decide +kernel

theorem starts_apart_blanks : (Runs.stretches (Runs.ends 0 ClassTable.startRuns)).all (fun r =>
    blankCodes.all fun n => Nat.ble (n + 1) r.1 || Nat.ble r.2 n) = true := by
  decide +kernel

/-- A character that begins an identifier is a letter of ASCII, an underscore, or of one of the
stretches. -/
theorem start_cases {c : Char} (start : isIdentifierStart c = true) :
    c.toNat = 95 ∨ (65 ≤ c.toNat ∧ c.toNat ≤ 90) ∨ (97 ≤ c.toNat ∧ c.toNat ≤ 122) ∨
      ∃ r ∈ Runs.stretches (Runs.ends 0 ClassTable.startRuns), r.1 ≤ c.toNat ∧ c.toNat < r.2 := by
  rw [isIdentifierStart] at start
  split at start
  · simp only [isAsciiLetter, Bool.or_eq_true, Bool.and_eq_true, decide_eq_true_eq, beq_iff_eq,
      Char.le_def, UInt32.le_iff_toNat_le] at start
    rcases start with (lower | upper) | rfl
    · exact Or.inr (Or.inr (Or.inl lower))
    · exact Or.inr (Or.inl upper)
    · exact Or.inl rfl
  · exact Or.inr (Or.inr (Or.inr (Runs.exists_stretch (by decide +kernel) start)))

theorem isDecimal_eq_false_of_start {c : Char} (start : isIdentifierStart c = true) :
    isDecimal c = false := by
  rw [isDecimal_eq, isDecimalCode, List.any_eq_false]
  intro z digits inside
  simp only [Bool.and_eq_true, decide_eq_true_eq] at inside
  have beyond : ∀ z ∈ digitZeros, z = 48 ∨ 123 ≤ z := by decide
  have placed := beyond z digits
  rcases start_cases start with under | upper | lower | ⟨r, stretch, low, high⟩
  · omega
  · omega
  · omega
  · have apart := List.all_eq_true.mp (List.all_eq_true.mp starts_apart_digits r stretch) z digits
    rw [Bool.or_eq_true, Nat.ble_eq, Nat.ble_eq] at apart
    omega

theorem isBlank_eq_false_of_start {c : Char} (start : isIdentifierStart c = true) :
    isBlank c = false := by
  rw [Bool.eq_false_iff]
  intro blank
  have listed := mem_blankCodes blank
  have beyond : ∀ n ∈ blankCodes, n ≤ 32 ∨ 123 ≤ n := by decide
  have placed := beyond _ listed
  rcases start_cases start with under | upper | lower | ⟨r, stretch, low, high⟩
  · omega
  · omega
  · omega
  · have apart := List.all_eq_true.mp (List.all_eq_true.mp starts_apart_blanks r stretch) _ listed
    rw [Bool.or_eq_true, Nat.ble_eq, Nat.ble_eq] at apart
    omega

end Stepwise.Text
