import Stepwise.Proofs.Reference.Path
import Stepwise.Proofs.Reference.Resolution

/-!
Indices in paths: which digits write an index. A segment of digits is an index, but not all that counts
as a digit can be read as one, and an index of too many digits is not read either.
-/

namespace Stepwise

/-! ### Digits -/

namespace Text

/-- Is a code point in a row of decimal digits? -/
def isDecimalCode (n : Nat) : Bool := digitZeros.any fun z => z ≤ n && n < z + 10

/-- Is a code point that of a digit? -/
def isDigitCode (n : Nat) : Bool :=
  isDecimalCode n || otherDigits.any fun (first, last) => first ≤ n && n ≤ last

theorem isDecimal_eq (c : Char) : isDecimal c = isDecimalCode c.toNat := by
  rw [isDecimal, decimalValue?, Option.isSome_map, List.isSome_find?]
  rfl

theorem isDigit_eq (c : Char) : isDigit c = isDigitCode c.toNat := by
  rw [isDigit, isDecimal_eq]
  rfl

/-- The code points of blanks. -/
def blankCodes : List Nat :=
  [0x09, 0x0a, 0x0b, 0x0c, 0x0d, 0x1c, 0x1d, 0x1e, 0x1f, 0x20, 0x85, 0xa0, 0x1680, 0x2000, 0x2001,
    0x2002, 0x2003, 0x2004, 0x2005, 0x2006, 0x2007, 0x2008, 0x2009, 0x200a, 0x2028, 0x2029, 0x202f,
    0x205f, 0x3000]

theorem mem_blankCodes {c : Char} (blank : isBlank c = true) : c.toNat ∈ blankCodes := by
  simp only [isBlank, Bool.or_eq_true, Bool.and_eq_true, decide_eq_true_eq, beq_iff_eq] at blank
  simp only [blankCodes, List.mem_cons, List.not_mem_nil, or_false]
  omega

theorem isBlank_eq_false_of_isDigit {c : Char} (digit : isDigit c = true) : isBlank c = false := by
  have apart : ∀ n ∈ blankCodes, isDigitCode n = false := by decide
  rw [Bool.eq_false_iff]
  intro blank
  rw [isDigit_eq, apart _ (mem_blankCodes blank)] at digit
  cases digit

/-- The digits of ASCII are the decimal ones. -/
theorem isDigit_of_ascii {c : Char} (digit : isDigit c = true) (ascii : c.toNat < 128) :
    c.isDigit = true := by
  have row : ∀ n < 128, isDigitCode n = true → 48 ≤ n ∧ n ≤ 57 := by decide +kernel
  rw [isDigit_eq] at digit
  obtain ⟨low, high⟩ := row _ ascii digit
  rw [Char.isDigit, Bool.and_eq_true, decide_eq_true_eq, decide_eq_true_eq, ge_iff_le,
    UInt32.le_iff_toNat_le, UInt32.le_iff_toNat_le]
  exact ⟨low, high⟩

theorem isDecimal_of_isDigit {c : Char} (digit : c.isDigit = true) : isDecimal c = true := by
  have row : ∀ n < 58, 48 ≤ n → isDecimalCode n = true := by decide +kernel
  have bounds : 48 ≤ c.toNat ∧ c.toNat ≤ 57 := by
    rwa [Char.isDigit, Bool.and_eq_true, decide_eq_true_eq, decide_eq_true_eq, ge_iff_le,
      UInt32.le_iff_toNat_le, UInt32.le_iff_toNat_le] at digit
  rw [isDecimal_eq]
  exact row _ (Nat.lt_succ_of_le bounds.2) bounds.1

theorem decimalValue?_of_isDigit {c : Char} (digit : c.isDigit = true) :
    decimalValue? c = some (c.toNat - '0'.toNat) ∧ '0'.toNat ≤ c.toNat ∧ c.toNat - '0'.toNat < 10 := by
  have row : ∀ n < 58, 48 ≤ n → (digitZeros.find? fun z => z ≤ n && n < z + 10) = some '0'.toNat := by
    decide +kernel
  rw [Char.isDigit, Bool.and_eq_true, decide_eq_true_eq, decide_eq_true_eq, ge_iff_le,
    UInt32.le_iff_toNat_le, UInt32.le_iff_toNat_le] at digit
  obtain ⟨low, high⟩ : 48 ≤ c.toNat ∧ c.toNat ≤ 57 := digit
  refine ⟨?_, low, ?_⟩
  · rw [decimalValue?, row c.toNat (Nat.lt_succ_of_le high) low]
    rfl
  · show c.toNat - 48 < 10
    omega

/-- The number that decimal digits of any script write. -/
def numberOf (s : List Char) : Nat := s.foldl (fun n c => 10 * n + (decimalValue? c).getD 0) 0

/-- Digits of ASCII write the number that they spell. -/
theorem numberOf_repr (n : Nat) : numberOf (Nat.repr n).toList = n := by
  have spelled (s : List Char) (m : Nat) (digits : ∀ c ∈ s, c.isDigit = true) :
      s.foldl (fun n c => 10 * n + (decimalValue? c).getD 0) m = Nat.ofDigitChars 10 s m := by
    induction s generalizing m with
    | nil => rfl
    | cons c rest ih =>
        obtain ⟨digit, later⟩ := List.forall_mem_cons.mp digits
        rw [List.foldl_cons, ih _ later, (decimalValue?_of_isDigit digit).1,
          Option.getD_some]
        rfl
  rw [numberOf, Nat.toList_repr, spelled _ _ fun c member =>
    Nat.isDigit_of_mem_toDigits (by omega) (Nat.le_refl 10) member]
  exact Nat.ofDigitChars_toDigits (by omega) (by omega)

end Text

/-! ### Integers of digits -/

namespace Reading

variable {c : Char} {s : List Char}

/-- A decimal digit becomes the digit of ASCII that has its value. -/
theorem exists_plainChar (decimal : Text.isDecimal c = true) :
    ∃ d < 10, Text.decimalValue? c = some d ∧ plainChar c = Char.ofNat ('0'.toNat + d) := by
  have digit : Text.isDigit c = true := by rw [Text.isDigit, decimal, Bool.true_or]
  by_cases ascii : c.toNat < 128
  · have plain := Text.isDigit_of_ascii digit ascii
    obtain ⟨value, low, small⟩ := Text.decimalValue?_of_isDigit plain
    refine ⟨c.toNat - '0'.toNat, small, value, ?_⟩
    rw [plainChar, if_pos ascii, Nat.add_sub_cancel' low, Char.ofNat_toNat]
  · obtain ⟨d, value⟩ := Option.isSome_iff_exists.mp decimal
    obtain ⟨first, row, rfl⟩ := Option.map_eq_some_iff.mp value
    have bounds := List.find?_some row
    simp only [Bool.and_eq_true, decide_eq_true_eq] at bounds
    refine ⟨c.toNat - first, by omega, value, ?_⟩
    simp only [plainChar, if_neg ascii, Text.isBlank_eq_false_of_isDigit digit, value]
    rfl

theorem isDigit_plainChar (decimal : Text.isDecimal c = true) : (plainChar c).isDigit = true := by
  obtain ⟨d, small, -, same⟩ := exists_plainChar decimal
  have digits : ∀ d < 10, (Char.ofNat ('0'.toNat + d)).isDigit = true := by decide
  rw [same, digits d small]

/-- A digit keeps its value. -/
theorem value_plainChar (decimal : Text.isDecimal c = true) :
    (plainChar c).toNat - '0'.toNat = (Text.decimalValue? c).getD 0 := by
  obtain ⟨d, small, value, same⟩ := exists_plainChar decimal
  have values : ∀ d < 10, (Char.ofNat ('0'.toNat + d)).toNat - '0'.toNat = d := by decide
  rw [same, values d small, value, Option.getD_some]

theorem plainChar_of_not_isDecimal (digit : Text.isDigit c = true)
    (other : Text.isDecimal c = false) : plainChar c = '?' := by
  by_cases ascii : c.toNat < 128
  · rw [Text.isDecimal_of_isDigit (Text.isDigit_of_ascii digit ascii)] at other
    cases other
  · rw [Text.isDecimal, Option.isSome_eq_false_iff, Option.isNone_iff_eq_none] at other
    simp only [plainChar, if_neg ascii, Text.isBlank_eq_false_of_isDigit digit, other]
    rfl

theorem digitValue?_of_isDigit (digit : c.isDigit = true) :
    digitValue? c = some (c.toNat - '0'.toNat) ∧ c.toNat - '0'.toNat < 10 := by
  have row : '0' ≤ c ∧ c ≤ '9' := by
    rwa [Char.isDigit, Bool.and_eq_true, decide_eq_true_eq, decide_eq_true_eq] at digit
  refine ⟨if_pos row, ?_⟩
  have high : c.toNat ≤ '9'.toNat := Char.le_def.mp row.2
  have nine : '9'.toNat = 57 := rfl
  have zero' : '0'.toNat = 48 := rfl
  omega

/-- Nothing is cut off digits. -/
theorem plain_of_digits (digits : ∀ c ∈ s, Text.isDigit c = true) :
    plain (String.ofList s) = s.map plainChar := by
  have solid : ∀ d ∈ s.map plainChar, isAsciiBlank d = false := by
    intro d member
    obtain ⟨c, inside, rfl⟩ := List.mem_map.mp member
    cases decimal : Text.isDecimal c with
    | true =>
        have blank := Text.isBlank_of_isDigit (isDigit_plainChar decimal)
        rw [Bool.eq_false_iff] at blank ⊢
        intro space
        apply blank
        simp only [isAsciiBlank, Text.isBlank, Bool.or_eq_true, Bool.and_eq_true, beq_iff_eq,
          decide_eq_true_eq] at space ⊢
        rcases space with space | range
        · rw [space]
          decide
        · omega
    | false => rw [plainChar_of_not_isDecimal (digits c inside) decimal]; rfl
  rw [plain, String.toList_ofList, Text.trimBy_of_forall solid]

theorem digits?_of_digits {base : Nat} (ten : 10 ≤ base) (some : s ≠ [])
    (digits : ∀ c ∈ s, c.isDigit = true) :
    digits? base s = .some (s.map fun c => c.toNat - '0'.toNat) := by
  induction s with
  | nil => exact absurd rfl some
  | cons c rest ih =>
      obtain ⟨value, small⟩ := digitValue?_of_isDigit (digits c List.mem_cons_self)
      have fits : c.toNat - '0'.toNat < base := Nat.lt_of_lt_of_le small ten
      cases rest with
      | nil =>
          rw [digits?, value, Option.bind_some, if_pos fits]
          rfl
      | cons e more =>
          have later := ih (List.cons_ne_nil _ _) fun x inside => digits x (List.mem_cons_of_mem c inside)
          have bare : c ≠ '_' := fun same => nomatch same ▸ digits c List.mem_cons_self
          have joined : e ≠ '_' := fun same =>
            nomatch same ▸ digits e (List.mem_cons_of_mem c List.mem_cons_self)
          rw [digits?, value, Option.bind_some, if_pos fits, later]
          · rfl
          · exact fun none => nomatch none
          · exact bare
          · rintro more' same
            exact joined (List.cons.inj same).1

/-- Digits of a base and their values; between two digits an underscore may stand. -/
inductive Digits (base : Nat) : List Char → List Nat → Prop where
  | last {c : Char} {d : Nat} (value : digitValue? c = some d) (small : d < base) : Digits base [c] [d]
  | next {c : Char} {d : Nat} {rest : List Char} {ds : List Nat} (value : digitValue? c = some d)
      (small : d < base) (others : Digits base rest ds) : Digits base (c :: rest) (d :: ds)
  | gap {c : Char} {d : Nat} {rest : List Char} {ds : List Nat} (value : digitValue? c = some d)
      (small : d < base) (others : Digits base rest ds) : Digits base (c :: '_' :: rest) (d :: ds)

variable {base : Nat} {ds : List Nat}

theorem Digits.of_digits? (read : digits? base s = some ds) : Digits base s ds := by
  induction s using digits?.induct generalizing ds with
  | case1 => cases read
  | case2 c =>
      rw [digits?] at read
      obtain ⟨d, value, kept⟩ := Option.bind_eq_some_iff.mp read
      split_ifs at kept with small
      cases kept
      exact .last value small
  | case3 rest notAlone =>
      rw [digits?] at read
      · cases read
      · exact notAlone
  | case4 c rest bare ih =>
      rw [digits?] at read
      · obtain ⟨d, value, kept⟩ := Option.bind_eq_some_iff.mp read
        split_ifs at kept with small
        obtain ⟨others, later, rfl⟩ := Option.map_eq_some_iff.mp kept
        exact .gap value small (ih later)
      · exact bare
  | case5 c rest some bare apart ih =>
      rw [digits?] at read
      · obtain ⟨d, value, kept⟩ := Option.bind_eq_some_iff.mp read
        split_ifs at kept with small
        obtain ⟨others, later, rfl⟩ := Option.map_eq_some_iff.mp kept
        exact .next value small (ih later)
      · exact some
      · exact bare
      · exact apart

theorem Digits.mem (read : Digits base s ds) :
    ∀ c ∈ s, c = '_' ∨ (digitValue? c).isSome = true := by
  induction read with
  | last value small => exact List.forall_mem_singleton.mpr (Or.inr (by rw [value]; rfl))
  | next value small others ih => exact List.forall_mem_cons.mpr ⟨Or.inr (by rw [value]; rfl), ih⟩
  | gap value small others ih =>
      rw [List.forall_mem_cons, List.forall_mem_cons]
      exact ⟨Or.inr (by rw [value]; rfl), Or.inl rfl, ih⟩

theorem Digits.lt (read : Digits base s ds) : ∀ d ∈ ds, d < base := by
  induction read with
  | last value small => exact List.forall_mem_singleton.mpr small
  | next value small others ih => exact List.forall_mem_cons.mpr ⟨small, ih⟩
  | gap value small others ih => exact List.forall_mem_cons.mpr ⟨small, ih⟩

theorem splitBase_ten (body : List Char) : splitBase 10 body = (10, body) := by
  unfold splitBase
  split
  · rename_i mark rest
    cases marked : markedBase? mark with
    | none => rfl
    | some base =>
        have other : base ≠ 10 := by
          unfold markedBase? at marked
          split_ifs at marked <;> cases marked <;> decide
        simp [other.symm]
  · rfl

theorem int?_ten (text : String) : int? 10 text =
    match digits? 10 (splitSign (plain text)).2 with
    | none => .error .malformed
    | some ds =>
      if 4300 < ds.length then .error (.tooLong ds.length)
      else
        let magnitude : Int := (ds.foldl (fun n d => 10 * n + d) 0 : Nat)
        .ok (if (splitSign (plain text)).1 then -magnitude else magnitude) := by
  unfold int?
  simp only [splitBase_ten]
  cases digits? 10 (splitSign (plain text)).2 with
  | none => rfl
  | some ds => simp [isPowerOfTwo]

/-- No sign stands in front of digits. -/
theorem splitSign_of_digits (digits : ∀ c ∈ s, Text.isDigit c = true) :
    splitSign (s.map plainChar) = (false, s.map plainChar) := by
  cases s with
  | nil => rfl
  | cons c rest =>
      have plus : plainChar c ≠ '+' ∧ plainChar c ≠ '-' := by
        cases decimal : Text.isDecimal c with
        | true =>
            have digit := isDigit_plainChar decimal
            constructor <;> intro same <;> rw [same] at digit <;> cases digit
        | false =>
            rw [plainChar_of_not_isDecimal (digits c List.mem_cons_self) decimal]
            decide
      rw [List.map_cons]
      unfold splitSign
      split
      · rename_i same
        exact absurd (List.cons.inj same).1 plus.2
      · rename_i same
        exact absurd (List.cons.inj same).1 plus.1
      · rfl

/-- Decimal digits of any script write a number, if there are not too many of them. -/
theorem int?_of_decimals (some : s ≠ []) (decimal : ∀ c ∈ s, Text.isDecimal c = true) :
    int? 10 (String.ofList s) =
      if 4300 < s.length then .error (.tooLong s.length) else .ok (Text.numberOf s) := by
  have digits (c : Char) (member : c ∈ s) : Text.isDigit c = true := by
    rw [Text.isDigit, decimal c member, Bool.true_or]
  have plainDigits : ∀ d ∈ s.map plainChar, d.isDigit = true := by
    intro d inside
    obtain ⟨c, member, rfl⟩ := List.mem_map.mp inside
    exact isDigit_plainChar (decimal c member)
  have read := digits?_of_digits (Nat.le_refl 10) (fun none => some (List.map_eq_nil_iff.mp none)) plainDigits
  have values : (s.map plainChar).map (fun c => c.toNat - '0'.toNat) =
      s.map fun c => (Text.decimalValue? c).getD 0 := by
    rw [List.map_map]
    exact List.map_congr_left fun c member => value_plainChar (decimal c member)
  rw [int?_ten, plain_of_digits digits, splitSign_of_digits digits]
  simp only [read, values, List.length_map, List.foldl_map]
  rfl

/-- Digits write an integer exactly if all of them are decimal and there are not too many. -/
theorem exists_int?_iff (some : s ≠ []) (digits : ∀ c ∈ s, Text.isDigit c = true) :
    (∃ n, int? 10 (String.ofList s) = .ok n) ↔
      (∀ c ∈ s, Text.isDecimal c = true) ∧ s.length ≤ 4300 := by
  by_cases decimal : ∀ c ∈ s, Text.isDecimal c = true
  · rw [int?_of_decimals some decimal]
    by_cases long : 4300 < s.length
    · rw [if_pos long]
      exact iff_of_false (by rintro ⟨_, ⟨⟩⟩)
        (fun short => Nat.not_le_of_lt long short.2)
    · rw [if_neg long]
      exact iff_of_true ⟨_, rfl⟩ ⟨decimal, Nat.le_of_not_lt long⟩
  · rw [int?_ten, plain_of_digits digits, splitSign_of_digits digits]
    refine iff_of_false ?_ (fun short => decimal short.1)
    rintro ⟨n, done⟩
    cases read : digits? 10 (s.map plainChar) with
    | none =>
        rw [read] at done
        cases done
    | some ds =>
        apply decimal
        intro c member
        by_contra other
        have mark := (Digits.of_digits? read).mem (plainChar c) (List.mem_map.mpr ⟨c, member, rfl⟩)
        rw [plainChar_of_not_isDecimal (digits c member) (Bool.eq_false_iff.mpr other)] at mark
        revert mark
        decide

end Reading

/-! ### Paths that cannot be read -/

namespace Path

/-- A text between dots that counts as a number and writes none: one of its digits is no decimal digit,
or there are more of them than an integer may have. -/
def Misnumbered (token : List Char) : Prop :=
  isDigits (Text.trim token) = true ∧
    ((∃ c ∈ Text.trim token, Text.isDecimal c = false) ∨ 4300 < (Text.trim token).length)

theorem exists_indexOf_iff {s : List Char} (digits : isDigits s = true) :
    (∃ n, indexOf s = .ok n) ↔ (∀ c ∈ s, Text.isDecimal c = true) ∧ s.length ≤ 4300 := by
  obtain ⟨some, all⟩ : s ≠ [] ∧ ∀ c ∈ s, Text.isDigit c = true := by
    simpa [isDigits] using digits
  rw [← Reading.exists_int?_iff some all, indexOf, Value.readInt]
  cases Reading.int? 10 (String.ofList s) with
  | ok n => exact iff_of_true ⟨_, rfl⟩ ⟨_, rfl⟩
  | error e =>
      refine iff_of_false ?_ (by rintro ⟨_, ⟨⟩⟩)
      rintro ⟨n, done⟩
      cases e <;> cases done

theorem exists_ofToken_eq_error_iff {token : List Char} :
    (∃ e, ofToken token = .error e) ↔ Misnumbered token := by
  by_cases star : Text.trim token = ['*']
  · refine iff_of_false ?_ ?_
    · rintro ⟨e, failed⟩
      rw [ofToken, if_pos star] at failed
      cases failed
    · rintro ⟨digits, -⟩
      rw [star] at digits
      revert digits
      decide
  by_cases starred : (Text.trim token).getLast? = some '*'
  · refine iff_of_false ?_ ?_
    · rintro ⟨e, failed⟩
      rw [ofToken, if_neg star, if_pos starred] at failed
      cases failed
    · rintro ⟨digits, -⟩
      have last := List.mem_of_getLast? starred
      have all : ∀ c ∈ Text.trim token, Text.isDigit c = true := by
        simpa [isDigits] using (Bool.and_eq_true_iff.mp digits).2
      have wrong := all '*' last
      revert wrong
      decide
  by_cases digits : isDigits (Text.trim token) = true
  · have indexed := exists_indexOf_iff digits
    rw [ofToken, if_neg star, if_neg starred, if_pos digits]
    constructor
    · rintro ⟨e, failed⟩
      refine ⟨digits, ?_⟩
      by_contra fine'
      rw [not_or, not_exists, Nat.not_lt] at fine'
      obtain ⟨n, read⟩ := indexed.mpr
        ⟨fun c member => by_contra fun other =>
          fine'.1 c ⟨member, Bool.eq_false_iff.mpr other⟩, fine'.2⟩
      rw [read] at failed
      cases failed
    · rintro ⟨-, wrong⟩
      cases read : indexOf (Text.trim token) with
      | error e => exact ⟨e, rfl⟩
      | ok n =>
          obtain ⟨decimal, short⟩ := indexed.mp ⟨n, read⟩
          rcases wrong with ⟨c, member, other⟩ | long
          · rw [decimal c member] at other
            cases other
          · omega
  · refine iff_of_false ?_ (fun wrong => digits wrong.1)
    rintro ⟨e, failed⟩
    rw [ofToken, if_neg star, if_neg starred, if_neg digits] at failed
    cases failed

theorem exists_ofTokens_eq_error_iff {tokens : List (List Char)} :
    (∃ e, ofTokens tokens = .error e) ↔ ∃ token ∈ tokens, Misnumbered token := by
  induction tokens with
  | nil => exact iff_of_false (by rintro ⟨_, ⟨⟩⟩) (by rintro ⟨_, ⟨⟩, _⟩)
  | cons token rest ih =>
      rw [List.exists_mem_cons_iff, ← ih, ← exists_ofToken_eq_error_iff, ofTokens]
      cases ofToken token with
      | error e => exact iff_of_true ⟨e, rfl⟩ (Or.inl ⟨e, rfl⟩)
      | ok first =>
          cases ofTokens rest with
          | error e => exact iff_of_true ⟨e, rfl⟩ (Or.inr ⟨e, rfl⟩)
          | ok others =>
              refine iff_of_false (by rintro ⟨_, ⟨⟩⟩) ?_
              rintro (⟨_, failed⟩ | ⟨_, failed⟩) <;> cases failed

/-- A path cannot be read exactly if one of its parts is misnumbered. -/
theorem exists_ofChars_eq_error_iff {s : List Char} :
    (∃ e, ofChars s = .error e) ↔ ∃ token ∈ tokens s, Misnumbered token :=
  exists_ofTokens_eq_error_iff

end Path

/-! ### Values with such paths -/

namespace Reference

/-- The path of the reference that a text is, as it is written. -/
def wholePath? (s : String) : Option (List Char) :=
  match s.toList with
  | '$' :: rest => (scoped? rest).map (·.2)
  | _ => none

/-- The path of the reference that a placeholder is, as it is written. -/
def placedPath? : Template.Piece → Option (List Char)
  | .placeholder inside => (scoped? (Text.trim inside)).map (·.2)
  | .literal _ => none

/-- The paths of the references in a text, as they are written. -/
def pathTexts (s : String) : List (List Char) :=
  match wholePath? s with
  | some path => [path]
  | none => (Template.split s.toList).filterMap placedPath?

theorem ofText_cases (s : String) :
    (wholePath? s = none ∧ ofText s = .ok none) ∨
      ∃ scope path, wholePath? s = some path ∧
        ofText s = (Path.ofChars path).map fun p => some ⟨s, scope, p⟩ := by
  unfold wholePath? ofText
  generalize s.toList = chars
  by_cases opens : ∃ rest, chars = '$' :: rest
  · obtain ⟨rest, rfl⟩ := opens
    cases opening : scoped? rest with
    | none => exact Or.inl ⟨by simp only [opening, Option.map_none], by simp only [opening]⟩
    | some found =>
        obtain ⟨scope, path⟩ := found
        refine Or.inr ⟨scope, path, by simp only [opening, Option.map_some], ?_⟩
        simp only [opening]
        cases Path.ofChars path <;> rfl
  · refine Or.inl ⟨?_, ?_⟩
    · split
      · exact absurd ⟨_, rfl⟩ opens
      · rfl
    · split
      · exact absurd ⟨_, rfl⟩ opens
      · rfl

theorem exists_ofPiece_eq_error_iff (piece : Template.Piece) :
    (∃ e, Template.Token.ofPiece piece = .error e) ↔
      ∃ path, placedPath? piece = some path ∧ ∃ e, Path.ofChars path = .error e := by
  cases piece with
  | literal text =>
      exact iff_of_false (by rintro ⟨_, ⟨⟩⟩) (by rintro ⟨_, ⟨⟩, _⟩)
  | placeholder inside =>
      rw [Template.Token.ofPiece, Template.referenceOf, placedPath?]
      cases scoped? (Text.trim inside) with
      | none =>
          exact iff_of_false (by rintro ⟨_, ⟨⟩⟩) (by rintro ⟨_, ⟨⟩, _⟩)
      | some found =>
          simp only [Option.map_some, Option.some.injEq, exists_eq_left']
          cases Path.ofChars found.2 with
          | ok p => exact iff_of_false (by rintro ⟨_, ⟨⟩⟩) (by rintro ⟨_, ⟨⟩⟩)
          | error e => exact iff_of_true ⟨e, rfl⟩ ⟨e, rfl⟩

theorem exists_tokens_eq_error_iff (s : String) :
    (∃ e, Template.tokens s = .error e) ↔
      ∃ path ∈ (Template.split s.toList).filterMap placedPath?, ∃ e, Path.ofChars path = .error e := by
  have whole : (∃ e, Template.tokens s = .error e) ↔
      ∃ e, (Template.split s.toList).mapM Template.Token.ofPiece = .error e := by
    unfold Template.tokens
    split
    · rename_i none
      rw [none]
      exact iff_of_false (by rintro ⟨_, ⟨⟩⟩) (by rintro ⟨_, ⟨⟩⟩)
    · rfl
  rw [whole, Checked.exists_mapM_eq_error_iff]
  simp only [exists_ofPiece_eq_error_iff, List.mem_filterMap]
  constructor
  · rintro ⟨piece, member, path, placed, failed⟩
    exact ⟨path, ⟨piece, member, placed⟩, failed⟩
  · rintro ⟨path, ⟨piece, member, placed⟩, failed⟩
    exact ⟨piece, member, path, placed, failed⟩

end Reference

/-- A text with a reference whose path cannot be read. -/
def Value.Misnumbered (v : Value) : Prop :=
  ∃ s, v.textOf? = some s ∧
    ∃ path ∈ Reference.pathTexts s, ∃ token ∈ Path.tokens path, Path.Misnumbered token

/-- The references in a value cannot be read exactly if one of their paths is misnumbered. -/
theorem Reference.exists_allIn_eq_error_iff {v : Value} :
    (∃ e, allIn v = .error e) ↔ v.Misnumbered := by
  simp only [Value.Misnumbered, ← Path.exists_ofChars_eq_error_iff]
  cases text : v.textOf? with
  | none =>
      refine iff_of_false ?_ (by rintro ⟨_, ⟨⟩, _⟩)
      rintro ⟨e, failed⟩
      simp only [allIn, ofValue, text] at failed
      cases failed
  | some s =>
      simp only [Option.some.injEq, exists_eq_left', pathTexts]
      rcases ofText_cases s with ⟨none, other⟩ | ⟨scope, path, whole, reference⟩
      · simp only [none, ← exists_tokens_eq_error_iff, allIn, ofValue, text, other]
        change (∃ e, (Template.tokens s >>= fun tokens => .ok _) = .error e) ↔ _
        cases Template.tokens s with
        | error e => exact iff_of_true ⟨e, rfl⟩ ⟨e, rfl⟩
        | ok tokens =>
            exact iff_of_false (by rintro ⟨_, ⟨⟩⟩) (by rintro ⟨_, ⟨⟩⟩)
      · simp only [whole, allIn, ofValue, text, reference, List.mem_singleton, exists_eq_left]
        cases Path.ofChars path with
        | error e => exact iff_of_true ⟨e, rfl⟩ ⟨e, rfl⟩
        | ok p =>
            exact iff_of_false (by rintro ⟨_, ⟨⟩⟩) (by rintro ⟨_, ⟨⟩⟩)

end Stepwise
