import Mathlib.Data.List.TakeWhile
import Stepwise.Proofs.Value.Fields
import Stepwise.Reference.Resolution

/-!
Paths that begin with a name: how a path is read that is made of two, and which names a path leads to when
they are written into it as they are.
-/

namespace Stepwise

/-! ### Trimmed texts -/

namespace Text

theorem trim_sublist_trimLeftBy (s : List Char) : (trim s).Sublist (trimLeftBy isBlank s) := by
  have dropped := (List.dropWhile_sublist (l := (trimLeftBy isBlank s).reverse) isBlank).reverse
  rwa [List.reverse_reverse] at dropped

theorem trim_sublist (s : List Char) : (trim s).Sublist s :=
  (trim_sublist_trimLeftBy s).trans (List.dropWhile_sublist _)

theorem dropWhile_of_forall {p : Char → Bool} {s : List Char} (solid : ∀ c ∈ s, p c = false) :
    s.dropWhile p = s := by
  cases s with
  | nil => rfl
  | cons c rest => rw [List.dropWhile_cons, solid c List.mem_cons_self]; rfl

theorem trimBy_of_forall {p : Char → Bool} {s : List Char} (solid : ∀ c ∈ s, p c = false) :
    trimBy p s = s := by
  have back : ∀ c ∈ s.reverse, p c = false := fun c member => solid c (List.mem_reverse.mp member)
  rw [trimBy, trimLeftBy, dropWhile_of_forall solid, trimRightBy, dropWhile_of_forall back,
    List.reverse_reverse]

theorem trim_of_forall {s : List Char} (solid : ∀ c ∈ s, isBlank c = false) : trim s = s :=
  trimBy_of_forall solid

theorem isBlank_of_isDigit {c : Char} (digit : c.isDigit = true) : isBlank c = false := by
  have bounds : 48 ≤ c.toNat ∧ c.toNat ≤ 57 := by
    rwa [Char.isDigit, Bool.and_eq_true, decide_eq_true_eq, decide_eq_true_eq, ge_iff_le,
      UInt32.le_iff_toNat_le, UInt32.le_iff_toNat_le] at digit
  simp only [isBlank, Bool.or_eq_false_iff, Bool.and_eq_false_iff, decide_eq_false_iff_not,
    beq_eq_false_iff_ne]
  omega

end Text

/-! ### Reading a path -/

namespace Path

variable {s t : List Char} {p q : Path}

theorem tokens_eq_cons (s : List Char) :
    ∃ others, tokens s = s.takeWhile (fun c => c ≠ '.') :: others := by
  induction s with
  | nil => exact ⟨[], rfl⟩
  | cons c rest ih =>
      obtain ⟨others, same⟩ := ih
      by_cases dot : c = '.'
      · exact ⟨tokens rest, by simp [tokens, dot]⟩
      · exact ⟨others, by simp [tokens, dot, same]⟩

theorem tokens_of_undotted (undotted : '.' ∉ s) : tokens s = [s] := by
  induction s with
  | nil => rfl
  | cons c rest ih =>
      rw [List.mem_cons, not_or] at undotted
      rw [tokens, if_neg (Ne.symm undotted.1), ih undotted.2]

theorem takeWhile_of_undotted (undotted : '.' ∉ s) : s.takeWhile (fun c => c ≠ '.') = s := by
  obtain ⟨others, split⟩ := tokens_eq_cons s
  rw [tokens_of_undotted undotted] at split
  exact (List.cons.inj split).1.symm

theorem tokens_append_dot (s t : List Char) : tokens (s ++ '.' :: t) = tokens s ++ tokens t := by
  induction s with
  | nil => simp [tokens]
  | cons c rest ih =>
      by_cases dot : c = '.'
      · simp [tokens, dot, ih]
      · obtain ⟨others, same⟩ := tokens_eq_cons rest
        simp [tokens, dot, ih, same]

theorem ofTokens_append (tokens others : List (List Char)) :
    ofTokens (tokens ++ others) = do return (← ofTokens tokens) ++ (← ofTokens others) := by
  induction tokens with
  | nil =>
      rw [List.nil_append, ofTokens]
      cases ofTokens others <;> rfl
  | cons token rest ih =>
      simp only [List.cons_append, ofTokens, ih, bind_assoc, pure_bind, List.append_assoc]

theorem ofChars_append_dot (s t : List Char) :
    ofChars (s ++ '.' :: t) = do return (← ofChars s) ++ (← ofChars t) := by
  rw [ofChars, tokens_append_dot, ofTokens_append]
  rfl

theorem ofChars_of_undotted (undotted : '.' ∉ s) : ofChars s = ofToken s := by
  rw [ofChars, tokens_of_undotted undotted, ofTokens]
  cases ofToken s with
  | error e => rfl
  | ok first => exact congrArg Except.ok (List.append_nil first)

/-- A text between dots is a star, a key before a star, an index or a key. -/
theorem ofToken_cases (read : ofToken s = .ok p) :
    p = [.each] ∨
      (∃ name, Text.trim s = name ++ ['*'] ∧ p = [.key (String.ofList name), .each]) ∨
      (∃ n, isDigits (Text.trim s) = true ∧ indexOf (Text.trim s) = .ok n ∧ p = [.index n]) ∨
      ((Text.trim s).getLast? ≠ some '*' ∧ isDigits (Text.trim s) = false ∧
        p = [.key (String.ofList (Text.trim s))]) := by
  simp only [ofToken] at read
  split at read
  · cases read
    exact Or.inl rfl
  split at read
  · rename_i starred
    cases read
    exact Or.inr (Or.inl ⟨_, (List.dropLast_append_getLast? _ starred).symm, rfl⟩)
  split at read
  · rename_i digits
    cases index : indexOf (Text.trim s) with
    | error e =>
        rw [index] at read
        cases read
    | ok n =>
        rw [index] at read
        cases read
        exact Or.inr (Or.inr (Or.inl ⟨n, digits, rfl, rfl⟩))
  · rename_i unstarred digits
    cases read
    exact Or.inr (Or.inr (Or.inr ⟨unstarred, Bool.not_eq_true _ ▸ digits, rfl⟩))

theorem ofToken_ne_nil (read : ofToken s = .ok p) : p ≠ [] := by
  rcases ofToken_cases read with rfl | ⟨_, -, rfl⟩ | ⟨_, -, -, rfl⟩ | ⟨-, -, rfl⟩ <;>
    exact List.cons_ne_nil _ _

theorem exists_ofToken_of_ofChars (read : ofChars s = .ok p) : ∃ front back,
    ofToken (s.takeWhile fun c => c ≠ '.') = .ok front ∧ p = front ++ back := by
  obtain ⟨others, split⟩ := tokens_eq_cons s
  rw [ofChars, split, ofTokens] at read
  cases token : ofToken (s.takeWhile fun c => c ≠ '.') with
  | error e =>
      rw [token] at read
      cases read
  | ok front =>
      rw [token] at read
      cases later : ofTokens others with
      | error e =>
          rw [later] at read
          cases read
      | ok back =>
          rw [later] at read
          cases read
          exact ⟨front, back, rfl, rfl⟩

theorem ofChars_ne_nil (read : ofChars s = .ok p) : p ≠ [] := by
  obtain ⟨front, back, token, rfl⟩ := exists_ofToken_of_ofChars read
  exact fun none => ofToken_ne_nil token (List.append_eq_nil_iff.mp none).1

theorem head?_append (some : p ≠ []) : head? (p ++ q) = head? p := by
  obtain ⟨first, rest, rfl⟩ := List.exists_cons_of_ne_nil some
  cases first <;> rfl

/-! ### Names that a path leads to as they are -/

/-- A name that is a segment of its own wherever it stands in a path, and the name of that segment. -/
structure Readable (id : String) : Prop where
  undotted : '.' ∉ id.toList
  trimmed : Text.trim id.toList = id.toList
  unstarred : id.toList.getLast? ≠ some '*'
  canonical : isDigits id.toList = true → ∃ n, indexOf id.toList = .ok n ∧ Nat.repr n = id

variable {id : String}

/-- What is neither a star nor ends in one is an index or a key. -/
theorem parse_of_unstarred (undotted : '.' ∉ id.toList) (trimmed : Text.trim id.toList = id.toList)
    (unstarred : id.toList.getLast? ≠ some '*') : parse id =
    if isDigits id.toList then do return [.index (← indexOf id.toList)] else .ok [.key id] := by
  have starless : id.toList ≠ ['*'] := fun star => unstarred (by rw [star]; rfl)
  simp only [parse, ofChars_of_undotted undotted, ofToken, trimmed, if_neg starless,
    if_neg unstarred, String.ofList_toList]

theorem parse_eq (readable : Readable id) : parse id =
    if isDigits id.toList then do return [.index (← indexOf id.toList)] else .ok [.key id] :=
  parse_of_unstarred readable.undotted readable.trimmed readable.unstarred

theorem parse_of_word (readable : Readable id) (word : isDigits id.toList = false) :
    parse id = .ok [.key id] := by
  rw [parse_eq readable, word]
  rfl

theorem parse_of_readable (readable : Readable id) :
    ∃ segment, parse id = .ok [segment] ∧ segment.name? = some id := by
  cases digits : isDigits id.toList with
  | false => exact ⟨.key id, parse_of_word readable digits, rfl⟩
  | true =>
      obtain ⟨n, index, same⟩ := readable.canonical digits
      rw [parse_eq readable, digits, index]
      exact ⟨.index n, rfl, congrArg some same⟩

theorem isDigit_of_repr {n : Nat} (same : Nat.repr n = id) : ∀ c ∈ id.toList, c.isDigit = true := by
  rw [← same, Nat.toList_repr]
  exact fun c member => Nat.isDigit_of_mem_toDigits (by omega) (Nat.le_refl 10) member

/-- What is left of a name before a dot, and without blanks around it, is the name only where nothing was
cut off. -/
theorem solid_of_length
    (long : id.toList.length ≤ (Text.trim (id.toList.takeWhile fun c => c ≠ '.')).length) :
    '.' ∉ id.toList ∧ Text.trim id.toList = id.toList := by
  have cut := Text.trim_sublist (id.toList.takeWhile fun c => c ≠ '.')
  have front : (id.toList.takeWhile fun c => c ≠ '.').Sublist id.toList := List.takeWhile_sublist _
  have whole : (id.toList.takeWhile fun c => c ≠ '.') = id.toList :=
    front.eq_of_length_le (long.trans cut.length_le)
  rw [whole] at cut long
  refine ⟨?_, cut.eq_of_length_le long⟩
  intro dot
  rw [← whole] at dot
  simpa using List.mem_takeWhile_imp dot

theorem readable_of_parse {first : Segment} {rest : Path} (read : parse id = .ok (first :: rest))
    (named : first.name? = some id) : Readable id := by
  obtain ⟨front, back, token, split⟩ := exists_ofToken_of_ofChars read
  rcases ofToken_cases token with rfl | ⟨name, starred, rfl⟩ | ⟨n, digits, index, rfl⟩ |
      ⟨unstarred, digits, rfl⟩
  · cases split
    cases named
  · -- Before a star the key is shorter than the name.
    cases split
    have same : String.ofList name = id := Option.some.inj named
    have cut := (Text.trim_sublist (id.toList.takeWhile fun c => c ≠ '.')).length_le
    have front := (List.takeWhile_sublist (l := id.toList) fun c => c ≠ '.').length_le
    rw [starred, ← same, String.toList_ofList, List.length_append, List.length_singleton] at cut
    rw [← same, String.toList_ofList] at front
    omega
  · cases split
    have same : Nat.repr n = id := Option.some.inj named
    have digit := isDigit_of_repr same
    have undotted : '.' ∉ id.toList := fun dot => nomatch digit '.' dot
    have trimmed : Text.trim id.toList = id.toList :=
      Text.trim_of_forall fun c member => Text.isBlank_of_isDigit (digit c member)
    have unstarred : id.toList.getLast? ≠ some '*' :=
      fun star => nomatch digit '*' (List.mem_of_getLast? star)
    rw [takeWhile_of_undotted undotted, trimmed] at index
    exact ⟨undotted, trimmed, unstarred, fun _ => ⟨n, index, same⟩⟩
  · cases split
    have same : String.ofList (Text.trim (id.toList.takeWhile fun c => c ≠ '.')) = id :=
      Option.some.inj named
    have list : Text.trim (id.toList.takeWhile fun c => c ≠ '.') = id.toList := by
      rw [← String.toList_inj, String.toList_ofList] at same
      exact same
    obtain ⟨undotted, trimmed⟩ := solid_of_length (Nat.le_of_eq (congrArg List.length list.symm))
    rw [list] at unstarred digits
    refine ⟨undotted, trimmed, unstarred, fun all => ?_⟩
    rw [digits] at all
    cases all

end Path

/-! ### Looking a name up -/

namespace Value

variable {segment : Segment} {rest : Path} {fields : Fields} {name : String}

theorem lookup_of_name (named : segment.name? = some name) :
    lookup (segment :: rest) (.ofFields fields) =
      lookup rest ((Fields.get? fields name).getD null) := by
  rw [← lookupText?_fields]
  cases segment with
  | each => cases named
  | key => cases named; rfl
  | index n => cases named; rfl

/-- Something is found only behind the name of a field. -/
theorem exists_name_of_lookup {x : Value} (found : lookup (segment :: rest) (.ofFields fields) = x)
    (some : x ≠ null) : ∃ name v, segment.name? = .some name ∧ Fields.get? fields name = .some v := by
  subst found
  cases named : segment.name? with
  | none =>
      cases segment with
      | each => exact absurd rfl some
      | key => cases named
      | index n => cases named
  | some name =>
      rw [lookup_of_name named] at some
      cases here : Fields.get? fields name with
      | none =>
          rw [here, Option.getD_none, lookup_null] at some
          exact absurd rfl some
      | some v => exact ⟨name, v, rfl, here⟩

end Value

end Stepwise
