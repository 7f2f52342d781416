import Stepwise.Proofs.Text.Identifier
import Stepwise.Script.Token

/-!
Scanning one token after the other. What a piece of a script is scanned into depends on nothing before
it but the brackets that are open, so the tokens of a script can be put together from those of its
pieces.
-/

namespace Stepwise.Script.Token

open Text (isBlank isDecimal isIdentifier)

variable {opened after : List String} {previous c : Char} {index : Nat} {taken rest : List Char}
  {lexeme : Option Lexeme} {lexemes : List Lexeme}

/-! ### Pieces -/

/-- Wherever they stand on a line, the characters are scanned into the lexemes. -/
def Yields (opened : List String) (s : List Char) (lexemes : List Lexeme) : Prop :=
  ∀ fuel previous index line, s.length ≤ fuel →
    scanFrom fuel opened previous index line s = ⟨lexemes.map fun l => ⟨l, line⟩, none⟩

theorem yields_nil : Yields opened [] [] := by
  intro fuel previous index line _
  cases fuel <;> rfl

/-- A piece that is scanned at once comes before what the rest yields. -/
theorem Yields.step (lexeme : Option Lexeme) (some : taken ≠ []) (straight : '\n' ∉ taken)
    (scanned : ∀ previous index,
      scanOne opened previous index (taken ++ rest) = .ok ⟨lexeme, taken.length, after⟩)
    (more : Yields after rest lexemes) :
    Yields opened (taken ++ rest) (lexeme.toList ++ lexemes) := by
  intro fuel previous index line enough
  obtain ⟨c, others, rfl⟩ := List.exists_cons_of_ne_nil some
  cases fuel with
  | zero => exact absurd enough (by simp)
  | succ fuel =>
      have counted : (c :: others).count '\n' = 0 := List.count_eq_zero_of_not_mem straight
      have left : rest.length ≤ fuel := by
        simp only [List.length_append, List.length_cons] at enough
        omega
      have split := scanned previous index
      rw [List.cons_append] at split
      rw [List.cons_append, scanFrom, split]
      simp only [← List.cons_append, List.take_left, List.drop_left, counted, Nat.add_zero,
        more fuel _ _ line left]
      cases lexeme <;> rfl

/-! ### The beginning of a piece -/

theorem takeWhile_eq_nil {p : Char → Bool} {s : List Char} (ends : ∀ c ∈ s.head?, p c = false) :
    s.takeWhile p = [] := by
  cases s with
  | nil => rfl
  | cons c rest =>
      refine List.takeWhile_cons_of_neg ?_
      rw [ends c rfl]
      exact Bool.false_ne_true

theorem takeWhile_of_false {p : Char → Bool} (other : p c = false) : (c :: rest).takeWhile p = [] :=
  takeWhile_eq_nil (by rintro _ ⟨rfl⟩; exact other)

theorem decimalRun_of_not_isDecimal (other : isDecimal c = false) : decimalRun (c :: rest) = [] := by
  have none : digitRun (c :: rest) = [] := by
    rw [digitRun, other]
    rfl
  rw [decimalRun, none]
  rfl

theorem wholeRun_of_not_isDecimal (other : isDecimal c = false) : wholeRun (c :: rest) = [] := by
  have zero : c ≠ '0' := by
    rintro rfl
    exact absurd other (by decide)
  have digit : ¬('1' ≤ c && c ≤ '9') = true := by
    rw [Bool.and_eq_true, decide_eq_true_eq, decide_eq_true_eq, Char.le_def, Char.le_def,
      UInt32.le_iff_toNat_le, UInt32.le_iff_toNat_le]
    rintro ⟨low, high⟩
    have row : ∀ n < 58, 49 ≤ n → Text.isDecimalCode n = true := by decide
    have decimal := row c.toNat (Nat.lt_succ_of_le high) low
    rw [← Text.isDecimal_eq, other] at decimal
    cases decimal
  have marked : markedRun (c :: rest) = [] := by
    unfold markedRun
    split
    · rename_i same
      exact absurd (List.cons.inj same).1 zero
    · rfl
  unfold wholeRun
  rw [marked]
  rw [if_neg (by decide)]
  split
  · rename_i same
    exact absurd (List.cons.inj same).1 zero
  · rename_i same
    rw [← (List.cons.inj same).1, if_neg digit]
  · rfl

/-- A character that begins neither a stretch of blanks nor a number nor a name. -/
structure Bare (c : Char) : Prop where
  blank : isBlank c = false
  digit : isDecimal c = false
  letter : nameChar c = false

theorem closesExpression_of_ne (brace : c ≠ '\x7d') (minus : c ≠ '-') :
    closesExpression opened (c :: rest) = false := by
  have apart {d : Char} {more : List Char} (other : c ≠ d) : (d :: more).isPrefixOf (c :: rest) = false := by
    rw [List.isPrefixOf, beq_false_of_ne other.symm, Bool.false_and]
  rw [closesExpression, apart brace, apart minus]
  exact Bool.and_false _

theorem scanOne_of_sign {sign : String} (bare : Bare c) (unquoted : c ≠ '\'' ∧ c ≠ '"')
    (goes : closesExpression opened (c :: rest) = false) (found : findSign? (c :: rest) = some sign)
    (balanced : balance opened sign = .ok after) :
    scanOne opened previous index (c :: rest) = .ok ⟨some (.sign sign), sign.length, after⟩ := by
  rw [scanOne, decimalRun_of_not_isDecimal bare.digit, wholeRun_of_not_isDecimal bare.digit, goes,
    takeWhile_of_false bare.blank, takeWhile_of_false bare.letter]
  simp only [ite_self, List.isEmpty_nil, Bool.not_true, Bool.false_eq_true, if_false]
  rw [if_neg, found]
  · dsimp only
    rw [balanced]
    rfl
  · rw [Bool.or_eq_true, beq_iff_eq, beq_iff_eq]
    exact not_or.mpr unquoted

theorem scanOne_of_text {body chars : List Char} (bare : Bare '"')
    (closed : textBody '"' rest = some body) (read : Text.unescape body = .ok chars) :
    scanOne opened previous index ('"' :: rest) =
      .ok ⟨some (.text (String.ofList chars)), body.length + 2, opened⟩ := by
  rw [scanOne, decimalRun_of_not_isDecimal bare.digit, wholeRun_of_not_isDecimal bare.digit,
    closesExpression_of_ne (by decide) (by decide),
    takeWhile_of_false bare.blank, takeWhile_of_false bare.letter]
  simp only [ite_self, List.isEmpty_nil, Bool.not_true, Bool.false_eq_true, if_false]
  rw [if_pos (by decide), closed]
  dsimp only
  rw [read]

theorem scanOne_of_space (ends : ∀ c ∈ rest.head?, isBlank c = false) :
    scanOne opened previous index (' ' :: rest) = .ok ⟨none, 1, opened⟩ := by
  have taken : (' ' :: rest).takeWhile isBlank = [' '] := by
    rw [List.takeWhile_cons_of_pos (by decide), takeWhile_eq_nil ends]
  rw [scanOne, closesExpression_of_ne (by decide) (by decide), taken]
  rfl

/-! ### Texts -/

theorem textBody_cons {quote : Char} (unescaped : c ≠ '\\') :
    textBody quote (c :: rest) =
      if c == quote then some [] else (textBody quote rest).map (c :: ·) := by
  rw [textBody.eq_def]
  split
  · rename_i same
    cases same
  · rename_i same
    exact absurd (List.cons.inj same).1 unescaped
  · rename_i same
    exact absurd (List.cons.inj same).1 unescaped
  · rename_i same
    obtain ⟨rfl, rfl⟩ := List.cons.inj same
    rfl

/-- A text without quotes and backslashes ends at the next quote. -/
theorem textBody_of_plain {body : List Char} (plain : ∀ c ∈ body, c ≠ '"' ∧ c ≠ '\\') :
    textBody '"' (body ++ '"' :: rest) = some body := by
  induction body with
  | nil =>
      rw [List.nil_append, textBody_cons (by decide)]
      rfl
  | cons c body ih =>
      obtain ⟨⟨unquoted, unescaped⟩, others⟩ := List.forall_mem_cons.mp plain
      rw [List.cons_append, textBody_cons unescaped, beq_false_of_ne unquoted, ih others]
      rfl

theorem unescapeFrom_of_plain {fuel : Nat} {s : List Char} (plain : ∀ c ∈ s, c ≠ '\\') :
    Text.unescapeFrom fuel s = .ok s := by
  induction fuel generalizing s with
  | zero => rfl
  | succ fuel ih =>
      cases s with
      | nil => rfl
      | cons c rest =>
          obtain ⟨unescaped, others⟩ := List.forall_mem_cons.mp plain
          rw [Text.unescapeFrom, ih others]
          · rfl
          · exact unescaped

/-- A character that texts and scripts hold as it is. -/
def isPlain (c : Char) : Bool := c.toNat < 128 && c != '"' && c != '\\' && c != '\n' && c != '\r'

/-- Between double quotes a text of plain characters stands for itself. -/
theorem scanOne_of_plain {body : List Char} (plain : ∀ c ∈ body, isPlain c = true) :
    scanOne opened previous index ('"' :: (body ++ '"' :: rest)) =
      .ok ⟨some (.text (String.ofList body)), body.length + 2, opened⟩ := by
  simp only [isPlain, Bool.and_eq_true, decide_eq_true_eq, bne_iff_ne] at plain
  refine scanOne_of_text ⟨by decide, by decide, by decide⟩ (textBody_of_plain fun c inside => ?_) ?_
  · obtain ⟨⟨⟨⟨-, unquoted⟩, unescaped⟩, -⟩, -⟩ := plain c inside
    exact ⟨unquoted, unescaped⟩
  · have ascii : (body.flatMap fun c => if c.toNat < 128 then [c] else Text.codeEscape c) = body := by
      rw [List.flatMap_congr fun c inside => if_pos (plain c inside).1.1.1.1]
      exact List.flatMap_singleton' body
    rw [Text.unescape, ascii]
    exact unescapeFrom_of_plain fun c inside => (plain c inside).1.1.2

/-! ### Names -/

theorem ne_of_start (start : Text.isIdentifierStart c = true) : c ≠ '\x7d' ∧ c ≠ '-' := by
  constructor <;> rintro rfl <;> exact absurd start (by decide)

/-- An identifier of characters that scripts know is scanned as one name. -/
theorem scanOne_of_name {name : List Char} (identifier : isIdentifier name = true)
    (known : ∀ c ∈ name, nameChar c = true) (ends : ∀ c ∈ rest.head?, nameChar c = false) :
    scanOne opened previous index (name ++ rest) =
      .ok ⟨some (.name (String.ofList name)), name.length, opened⟩ := by
  cases name with
  | nil => cases identifier
  | cons c others =>
      have start : Text.isIdentifierStart c = true := (Bool.and_eq_true_iff.mp identifier).1
      obtain ⟨brace, minus⟩ := ne_of_start start
      have taken : (c :: (others ++ rest)).takeWhile nameChar = c :: others := by
        rw [← List.cons_append, List.takeWhile_append_of_pos known, takeWhile_eq_nil ends,
          List.append_nil]
      have digit := Text.isDecimal_eq_false_of_start start
      rw [List.cons_append, scanOne, decimalRun_of_not_isDecimal digit, wholeRun_of_not_isDecimal digit,
        closesExpression_of_ne brace minus, taken,
        takeWhile_of_false (Text.isBlank_eq_false_of_start start)]
      simp only [ite_self, List.isEmpty_nil, Bool.not_true, Bool.false_eq_true, if_false]
      rw [if_pos (by rfl), if_pos identifier]

/-! ### Pieces of each kind -/

theorem Yields.sign {sign : String} (bare : Bare c) (plain : c ≠ '\'' ∧ c ≠ '"' ∧ c ≠ '\n')
    (goes : closesExpression opened (c :: rest) = false) (found : findSign? (c :: rest) = some sign)
    (single : sign.length = 1) (balanced : balance opened sign = .ok after)
    (more : Yields after rest lexemes) : Yields opened (c :: rest) (.sign sign :: lexemes) := by
  have scanned (previous : Char) (index : Nat) :
      scanOne opened previous index ([c] ++ rest) = .ok ⟨some (.sign sign), [c].length, after⟩ := by
    rw [List.singleton_append, scanOne_of_sign bare ⟨plain.1, plain.2.1⟩ goes found balanced, single]
    rfl
  exact Yields.step (some (.sign sign)) (List.cons_ne_nil c [])
    (by simpa using plain.2.2.symm) scanned more

theorem Yields.text {body : List Char} (plain : ∀ c ∈ body, isPlain c = true)
    (more : Yields opened rest lexemes) :
    Yields opened ('"' :: (body ++ '"' :: rest)) (.text (String.ofList body) :: lexemes) := by
  have whole : '"' :: (body ++ '"' :: rest) = '"' :: (body ++ ['"']) ++ rest := by simp
  have scanned (previous : Char) (index : Nat) :
      scanOne opened previous index ('"' :: (body ++ ['"']) ++ rest) =
        .ok ⟨some (.text (String.ofList body)), ('"' :: (body ++ ['"'])).length, opened⟩ := by
    rw [← whole, scanOne_of_plain plain]
    simp
  have straight : '\n' ∉ '"' :: (body ++ ['"']) := by
    simp only [List.mem_cons, List.mem_append, List.not_mem_nil, or_false, not_or]
    exact ⟨by decide, fun inside => absurd (plain _ inside) (by decide), by decide⟩
  rw [whole]
  exact Yields.step (some (.text _)) (List.cons_ne_nil _ _) straight scanned more

theorem Yields.space (ends : ∀ c ∈ rest.head?, isBlank c = false)
    (more : Yields opened rest lexemes) : Yields opened (' ' :: rest) lexemes :=
  Yields.step none (List.cons_ne_nil ' ' []) (by decide) (fun _ _ => scanOne_of_space ends) more

theorem Yields.name {name : List Char} (identifier : isIdentifier name = true)
    (known : ∀ c ∈ name, nameChar c = true) (ends : ∀ c ∈ rest.head?, nameChar c = false)
    (more : Yields opened rest lexemes) :
    Yields opened (name ++ rest) (.name (String.ofList name) :: lexemes) := by
  have some : name ≠ [] := by
    rintro rfl
    cases identifier
  refine Yields.step (.some (.name _)) some (fun inside => ?_)
    (fun _ _ => scanOne_of_name identifier known ends) more
  exact absurd (known _ inside) (by decide)

/-! ### A mapping with one entry -/

/-- A mapping of a text to a word, as it is written. -/
def written (key word : List Char) : List Char :=
  '\x7b' :: '"' :: (key ++ '"' :: ':' :: ' ' :: (word ++ ['\x7d']))

theorem yields_written {key word : List Char} (plain : ∀ c ∈ key, isPlain c = true)
    (identifier : isIdentifier word = true) (known : ∀ c ∈ word, nameChar c = true) :
    Yields [] (written key word) [.sign "\x7b", .text (String.ofList key), .sign ":",
      .name (String.ofList word), .sign "\x7d"] := by
  have brace : nameChar '\x7d' = false := by decide
  have begins : ∀ c ∈ (word ++ ['\x7d']).head?, isBlank c = false := by
    cases word with
    | nil => cases identifier
    | cons c rest =>
        rintro _ ⟨rfl⟩
        exact Text.isBlank_eq_false_of_start (Bool.and_eq_true_iff.mp identifier).1
  have close : Yields ["\x7d"] ['\x7d'] [.sign "\x7d"] :=
    .sign ⟨by decide, by decide, by decide⟩ (by decide) rfl rfl rfl rfl yields_nil
  have value := Yields.name identifier known (by rintro _ ⟨rfl⟩; exact brace) close
  have colon : Yields ["\x7d"] (':' :: ' ' :: (word ++ ['\x7d']))
      [.sign ":", .name (String.ofList word), .sign "\x7d"] :=
    .sign ⟨by decide, by decide, by decide⟩ (by decide)
      (closesExpression_of_ne (by decide) (by decide)) rfl rfl rfl (value.space begins)
  exact .sign ⟨by decide, by decide, by decide⟩ (by decide)
    (closesExpression_of_ne (by decide) (by decide)) rfl rfl rfl (colon.text plain)

/-! ### Lines -/

theorem unifyLines_of_unbroken {s : List Char} (unbroken : '\r' ∉ s) : unifyLines s = s := by
  induction s with
  | nil => rfl
  | cons c rest ih =>
      rw [List.mem_cons, not_or] at unbroken
      rw [unifyLines.eq_def]
      split
      · rename_i same
        exact absurd (List.cons.inj same).1.symm unbroken.1
      · rename_i same
        exact absurd (List.cons.inj same).1.symm unbroken.1
      · rename_i same
        obtain ⟨rfl, rfl⟩ := List.cons.inj same
        rw [ih unbroken.2]
      · rename_i same
        cases same

theorem dropLastLine_of_snoc {s : List Char} (straight : c ≠ '\n') :
    dropLastLine (s ++ [c]) = s ++ [c] := by
  rw [dropLastLine, List.reverse_append, List.reverse_singleton, List.singleton_append]
  split
  · rename_i same
    exact absurd (List.cons.inj same).1 straight
  · rfl

/-- A mapping of a text to a word is scanned into its five tokens, on the first line. -/
theorem scan_written {key word : List Char} (plain : ∀ c ∈ key, isPlain c = true)
    (identifier : isIdentifier word = true) (known : ∀ c ∈ word, nameChar c = true) :
    scan (String.ofList (written key word)) =
      ⟨[⟨.sign "\x7b", 1⟩, ⟨.text (String.ofList key), 1⟩, ⟨.sign ":", 1⟩,
        ⟨.name (String.ofList word), 1⟩, ⟨.sign "\x7d", 1⟩], none⟩ := by
  have unbroken : '\r' ∉ written key word := by
    simp only [written, List.mem_cons, List.mem_append, List.not_mem_nil, or_false, not_or]
    refine ⟨by decide, by decide, fun inside => ?_, by decide, by decide, by decide, fun inside => ?_,
      by decide⟩
    · exact absurd (plain _ inside) (by decide)
    · exact absurd (known _ inside) (by decide)
  have ended : dropLastLine (written key word) = written key word := by
    have split : written key word =
        ('\x7b' :: '"' :: (key ++ '"' :: ':' :: ' ' :: word)) ++ ['\x7d'] := by simp [written]
    rw [split]
    exact dropLastLine_of_snoc (by decide)
  rw [scan, String.toList_ofList, unifyLines_of_unbroken unbroken, ended]
  exact yields_written plain identifier known _ _ _ _ (Nat.le_succ _)

end Stepwise.Script.Token
