import Mathlib.Data.List.Chain
import Stepwise.Proofs.Checked
import Stepwise.Proofs.Reference.Index
import Stepwise.Proofs.Reference.Template

/-!
Where the placeholders of a template stand. A text is cut into tokens at the leftmost placeholders that do
not overlap, and as no two placeholders can overlap these are all that there are. Nothing is lost: the
tokens put together are the text, no two stretches of other text follow each other, and only the empty text
has an empty one.
-/

namespace Stepwise.Template

variable {s t x y : List Char} {c : Char} {i j start : Nat} {ps : List Piece}

/-! ### Occurrences -/

/-- A placeholder stands at a place of a text: two opening braces, one or more characters that are no
braces, and two closing braces. -/
structure Occurs (s : List Char) (i : Nat) (x : List Char) : Prop where
  inside : Inside x
  there : enclosed x <+: s.drop i

/-- The placeholders of a text from a place on, from the left: each is the first behind the end of the one
before it, and none stands behind the last. -/
inductive Leftmost (s : List Char) : Nat → List (Nat × List Char) → Prop where
  | none {start : Nat} (free : ∀ i x, start ≤ i → ¬Occurs s i x) : Leftmost s start []
  | next {start i : Nat} {x : List Char} {rest : List (Nat × List Char)} (behind : start ≤ i)
      (here : Occurs s i x) (first : ∀ j y, start ≤ j → j < i → ¬Occurs s j y)
      (others : Leftmost s (i + (enclosed x).length) rest) : Leftmost s start ((i, x) :: rest)

/-- Behind a text a placeholder stands where one is taken off the front. -/
theorem occurs_append_iff (s t : List Char) :
    Occurs (s ++ t) s.length x ↔ ∃ rest, placeholder? t = some (x, rest) := by
  constructor
  · rintro ⟨inside, rest, whole⟩
    rw [List.drop_left] at whole
    exact ⟨rest, whole ▸ placeholder?_enclosed inside rest⟩
  · rintro ⟨rest, found⟩
    refine ⟨inside_of_placeholder? found, rest, ?_⟩
    rw [List.drop_left, placeholder?_eq_some found]

/-- The characters of a placeholder in the text around it. -/
theorem Occurs.getElem? (occurs : Occurs s i x) {n : Nat} (within : n < (enclosed x).length) :
    s[i + n]? = (enclosed x)[n]? := by
  obtain ⟨rest, whole⟩ := occurs.there
  rw [← List.getElem?_drop, ← whole, List.getElem?_append_left within]

theorem Occurs.opening (occurs : Occurs s i x) : s[i]? = some '\x7b' ∧ s[i + 1]? = some '\x7b' :=
  ⟨occurs.getElem? (n := 0) (by simp [enclosed]), occurs.getElem? (n := 1) (by simp [enclosed])⟩

theorem Inside.not_mem_opening (inside : Inside x) : '\x7b' ∉ x ++ ['\x7d', '\x7d'] := by
  rw [List.mem_append, not_or]
  refine ⟨fun brace => ?_, by decide⟩
  have unbraced := inside.unbraced _ brace
  cases unbraced

/-- Behind its second brace a placeholder has no brace that opens one. -/
theorem Occurs.not_opening (occurs : Occurs s i x) {n : Nat} (low : 2 ≤ n)
    (high : n < (enclosed x).length) : s[i + n]? ≠ some '\x7b' := by
  obtain ⟨n, rfl⟩ := Nat.exists_eq_add_of_le' low
  rw [occurs.getElem? high]
  intro brace
  exact occurs.inside.not_mem_opening (List.mem_of_getElem? (i := n) brace)

/-- Placeholders do not overlap. -/
theorem Occurs.apart (first : Occurs s i x) (second : Occurs s j y) (before : i < j) :
    i + (enclosed x).length ≤ j := by
  by_contra within
  obtain ⟨n, rfl⟩ := Nat.exists_eq_add_of_lt before
  have long : 4 < (enclosed x).length := by
    have some := List.length_pos_iff.mpr first.inside.some
    simp only [enclosed, List.length_cons, List.length_append, List.length_nil]
    omega
  obtain ⟨brace, next⟩ := second.opening
  cases n with
  | zero => exact first.not_opening (Nat.le_refl 2) (by omega) next
  | succ n => exact first.not_opening (n := n + 2) (by omega) (by omega) brace

/-- What stands in a placeholder is decided by its place. -/
theorem Occurs.unique (one : Occurs s i x) (other : Occurs s i y) : x = y := by
  obtain ⟨rest, whole⟩ := one.there
  obtain ⟨more, again⟩ := other.there
  have found := placeholder?_enclosed one.inside rest
  rw [whole, ← again, placeholder?_enclosed other.inside more] at found
  cases found
  rfl

/-! ### From the left -/

variable {places : List (Nat × List Char)}

/-- A place without a placeholder is passed over. -/
theorem Leftmost.pass (later : Leftmost s (i + 1) places) (free : ∀ x, ¬Occurs s i x) :
    Leftmost s i places := by
  cases later with
  | none none =>
      refine .none fun j x from' occurs => ?_
      rcases Nat.eq_or_lt_of_le from' with rfl | behind
      · exact free x occurs
      · exact none j x behind occurs
  | next behind here first others =>
      refine .next (Nat.le_of_succ_le behind) here (fun j y from' before occurs => ?_) others
      rcases Nat.eq_or_lt_of_le from' with rfl | further
      · exact free y occurs
      · exact first j y further before occurs

theorem Leftmost.occurs (leftmost : Leftmost s start places) :
    ∀ place ∈ places, start ≤ place.1 ∧ Occurs s place.1 place.2 := by
  induction leftmost with
  | none => exact List.forall_mem_nil _
  | next behind here _ _ ih =>
      refine List.forall_mem_cons.mpr ⟨⟨behind, here⟩, fun place member => ?_⟩
      obtain ⟨further, occurs⟩ := ih place member
      exact ⟨by omega, occurs⟩

/-- Each placeholder is one of the leftmost. -/
theorem Leftmost.mem (leftmost : Leftmost s start places) (behind : start ≤ i) (occurs : Occurs s i x) :
    (i, x) ∈ places := by
  induction leftmost with
  | none free => exact absurd occurs (free i x behind)
  | @next start j y rest _ here first _ ih =>
      rcases Nat.lt_trichotomy i j with before | rfl | after
      · exact absurd occurs (first i x behind before)
      · rw [here.unique occurs]
        exact List.mem_cons_self
      · exact List.mem_cons_of_mem _ (ih (here.apart occurs after))

theorem Leftmost.occurs_iff (leftmost : Leftmost s 0 places) : Occurs s i x ↔ (i, x) ∈ places :=
  ⟨leftmost.mem (Nat.zero_le i), fun member => (leftmost.occurs _ member).2⟩

/-! ### Pieces -/

/-- What is kept of the items of a list, with the places at which their texts begin. -/
def placed {α β : Type} (text : α → List Char) (kept : α → Option β) (start : Nat) :
    List α → List (Nat × β)
  | [] => []
  | a :: rest =>
    ((kept a).map (Prod.mk start)).toList ++ placed text kept (start + (text a).length) rest

theorem map_snd_placed {α β : Type} (text : α → List Char) (kept : α → Option β) (start : Nat)
    (items : List α) : (placed text kept start items).map Prod.snd = items.filterMap kept := by
  induction items generalizing start with
  | nil => rfl
  | cons a rest ih =>
      rw [placed, List.map_append, ih]
      cases here : kept a with
      | none => rw [List.filterMap_cons_none here]; rfl
      | some b => rw [List.filterMap_cons_some here]; rfl

theorem placed_consLiteral (c : Char) (ps : List Piece) (start : Nat) :
    placed Piece.chars Piece.inside? start (consLiteral c ps) =
      placed Piece.chars Piece.inside? (start + 1) ps := by
  cases ps with
  | nil => rfl
  | cons p rest =>
      cases p with
      | literal text =>
          simp only [consLiteral, placed, Piece.inside?, Piece.chars, List.length_cons]
          rw [Nat.add_right_comm]
          rfl
      | placeholder x => rfl

/-- Text is cut at the leftmost placeholders. The induction is on the text that is left, behind that which
is cut already. -/
theorem leftmost_split (s t : List Char) :
    Leftmost (s ++ t) s.length (placed Piece.chars Piece.inside? s.length (split t)) := by
  induction t using split.induct generalizing s with
  | case1 t x rest found _ ih =>
      have here : Occurs (s ++ t) s.length x := (occurs_append_iff s t).mpr ⟨rest, found⟩
      have others := ih (s ++ enclosed x)
      rw [List.append_assoc, ← placeholder?_eq_some found, List.length_append] at others
      rw [split_of_placeholder? found]
      exact .next (Nat.le_refl _) here (fun j y from' before => by omega) others
  | case2 =>
      rw [split_nil]
      refine .none fun i x behind occurs => ?_
      have brace := occurs.opening.1
      rw [List.append_nil, List.getElem?_eq_none behind] at brace
      cases brace
  | case3 c rest none ih =>
      have later := ih (s ++ [c])
      rw [List.append_assoc, List.singleton_append, List.length_append, List.length_singleton] at later
      rw [split_cons none, placed_consLiteral]
      refine later.pass fun x occurs => ?_
      obtain ⟨after, found⟩ := (occurs_append_iff s _).mp occurs
      rw [none] at found
      cases found

theorem placeholder_mem_split_iff : .placeholder x ∈ split s ↔ ∃ i, Occurs s i x := by
  have leftmost := leftmost_split [] s
  rw [← mem_holes, holes, ← map_snd_placed Piece.chars Piece.inside? 0, List.mem_map]
  constructor
  · rintro ⟨place, member, rfl⟩
    exact ⟨place.1, leftmost.occurs_iff.mpr member⟩
  · rintro ⟨i, occurs⟩
    exact ⟨(i, x), leftmost.occurs_iff.mp occurs, rfl⟩

/-- Of two pieces next to each other one is a placeholder. -/
theorem isChain_split (s : List Char) :
    (split s).IsChain fun p q => p.inside?.isSome ∨ q.inside?.isSome := by
  induction s using split.induct with
  | case1 s x rest found _ ih =>
      rw [split_of_placeholder? found, List.isChain_cons]
      exact ⟨fun q _ => Or.inl rfl, ih⟩
  | case2 =>
      rw [split_nil]
      exact .nil
  | case3 c rest none ih =>
      rw [split_cons none]
      cases pieces : split rest with
      | nil => exact .singleton _
      | cons p more =>
          rw [pieces] at ih
          cases p with
          | literal text =>
              rw [List.isChain_cons] at ih
              rw [consLiteral, List.isChain_cons]
              exact ih
          | placeholder x =>
              rw [consLiteral, List.isChain_cons_cons]
              · exact ⟨Or.inr rfl, ih⟩
              · rintro _ _ ⟨⟩

theorem literal_ne_nil (member : .literal t ∈ split s) : t ≠ [] := by
  induction s using split.induct generalizing t with
  | case1 s x rest found _ ih =>
      rw [split_of_placeholder? found] at member
      rcases List.mem_cons.mp member with same | later
      · cases same
      · exact ih later
  | case2 =>
      rw [split_nil] at member
      cases member
  | case3 c rest none ih =>
      rw [split_cons none] at member
      cases pieces : split rest with
      | nil =>
          rw [pieces] at member
          cases List.mem_singleton.mp member
          exact List.cons_ne_nil c []
      | cons p more =>
          rw [pieces] at ih member
          cases p with
          | literal text =>
              rcases List.mem_cons.mp member with same | later
              · cases same
                exact List.cons_ne_nil c text
              · exact ih (List.mem_cons_of_mem _ later)
          | placeholder x =>
              rcases List.mem_cons.mp member with same | later
              · cases same
                exact List.cons_ne_nil c []
              · exact ih later

/-! ### Tokens -/

/-- Items with the same texts are placed alike. -/
theorem placed_of_forall₂ {α β γ δ : Type} {text : α → List Char} {kept : α → Option γ}
    {written : β → List Char} {shown : β → Option δ} {f : γ → δ} {items : List α} {others : List β}
    (same : List.Forall₂ (fun a b => written b = text a ∧ shown b = (kept a).map f) items others)
    (start : Nat) :
    placed written shown start others =
      (placed text kept start items).map fun place => (place.1, f place.2) := by
  induction same generalizing start with
  | nil => rfl
  | @cons a b _ _ here _ ih =>
      obtain ⟨length, item⟩ := here
      rw [placed, placed, List.map_append, ih, length, item]
      cases kept a <;> rfl

namespace Token

/-- The text that is read as a token. -/
def written : Token → String
  | literal text => text
  | placeholder raw _ => raw

/-- The text of a placeholder. -/
def raw? : Token → Option String
  | literal _ => none
  | placeholder raw _ => some raw

variable {p : Piece} {token : Token}

/-- A token is written like the piece that it is read from. -/
theorem written_ofPiece (read : ofPiece p = .ok token) :
    token.written = String.ofList p.chars ∧
      token.raw? = p.inside?.map fun x => String.ofList (enclosed x) := by
  cases p with
  | literal text =>
      cases read
      exact ⟨rfl, rfl⟩
  | placeholder x =>
      obtain ⟨reference, -, same⟩ := bind_eq_ok.mp read
      cases same
      exact ⟨rfl, rfl⟩

end Token

variable {text : String} {found : List Token} {ctx : Context} {others : Value}

theorem split_eq_nil_iff : split s = [] ↔ s = [] := by
  constructor
  · intro none
    rw [← chars_split s, none]
    rfl
  · rintro rfl
    exact split_nil

/-- The tokens of a text are those of its pieces, except that the empty text has one. -/
theorem tokens_cases (read : tokens text = .ok found) :
    (text = "" ∧ found = [.literal ""]) ∨
      List.Forall₂ (fun p token => Token.ofPiece p = .ok token) (split text.toList) found := by
  unfold tokens at read
  split at read
  · rename_i none
    cases read
    exact Or.inl ⟨String.toList_eq_nil_iff.mp (split_eq_nil_iff.mp none), rfl⟩
  · exact Or.inr (Checked.mapM_eq_ok_iff.mp read)

/-- What is the same of each token as of its piece. -/
theorem map_tokens {α : Type} {f : Token → α} {g : Piece → α}
    (each : List.Forall₂ (fun p token => Token.ofPiece p = .ok token) ps found)
    (same : ∀ p token, Token.ofPiece p = .ok token → f token = g p) : found.map f = ps.map g := by
  induction each with
  | nil => rfl
  | cons here _ ih => rw [List.map_cons, List.map_cons, ih, same _ _ here]

theorem join_written (read : tokens text = .ok found) : String.join (found.map Token.written) = text := by
  rcases tokens_cases read with ⟨rfl, rfl⟩ | each
  · rfl
  · rw [map_tokens each fun p token here => (Token.written_ofPiece here).1, join_chars, chars_split,
      String.ofList_toList]

theorem isChain_tokens (read : tokens text = .ok found) :
    found.IsChain fun a b => a.raw?.isSome ∨ b.raw?.isSome := by
  rcases tokens_cases read with ⟨rfl, rfl⟩ | each
  · exact .singleton _
  · have chain : ((split text.toList).map fun p => p.inside?.isSome).IsChain fun a b =>
        a = true ∨ b = true := (List.isChain_map _).mpr (isChain_split text.toList)
    have same : found.map (fun token => token.raw?.isSome) =
        (split text.toList).map fun p => p.inside?.isSome := by
      refine map_tokens each fun p token here => ?_
      rw [(Token.written_ofPiece here).2, Option.isSome_map]
    rwa [← same, List.isChain_map] at chain

theorem eq_empty_of_literal (read : tokens text = .ok found) (member : .literal "" ∈ found) :
    text = "" := by
  rcases tokens_cases read with ⟨rfl, -⟩ | each
  · rfl
  · obtain ⟨p, inside, here⟩ := Checked.exists_of_mapM (Checked.mapM_eq_ok_iff.mpr each) _ member
    cases p with
    | literal t =>
        have none : String.ofList t = "" := Token.literal.inj (Except.ok.inj here)
        rw [← String.toList_inj, String.toList_ofList] at none
        exact absurd none (literal_ne_nil inside)
    | placeholder x =>
        obtain ⟨reference, -, same⟩ := bind_eq_ok.mp here
        cases same

/-- The placeholders among the tokens stand where those among the pieces do. -/
theorem placed_tokens (read : tokens text = .ok found) :
    placed (fun token => token.written.toList) Token.raw? 0 found =
      (placed Piece.chars Piece.inside? 0 (split text.toList)).map fun place =>
        (place.1, String.ofList (enclosed place.2)) := by
  rcases tokens_cases read with ⟨rfl, rfl⟩ | each
  · have none : split "".toList = [] := split_nil
    rw [none]
    rfl
  · have same : List.Forall₂ (fun p token => token.written.toList = p.chars ∧
        token.raw? = p.inside?.map fun x => String.ofList (enclosed x)) (split text.toList) found := by
      refine each.imp fun p token here => ?_
      obtain ⟨written, raw⟩ := Token.written_ofPiece here
      exact ⟨by rw [written, String.toList_ofList], raw⟩
    exact placed_of_forall₂ same 0

/-! ### Nothing resolves -/

/-- A template of which no placeholder has a value is rendered as it is. -/
theorem render_of_unresolved (read : tokens text = .ok found)
    (unresolved : ∀ raw r, .placeholder raw (some r) ∈ found → r.resolve ctx = .null) :
    render ctx text = .ok text := by
  have kept : found.mapM (Token.render ctx) = found.mapM fun token => pure token.written := by
    apply Checked.mapM_congr
    intro token member
    cases token with
    | literal t => rfl
    | placeholder raw reference =>
        cases reference with
        | none => rfl
        | some r =>
            rw [Token.render, unresolved raw r member]
            rfl
  rw [render, read]
  change (found.mapM (Token.render ctx) >>= fun parts => pure (String.join parts)) = _
  rw [kept, List.mapM_pure, pure_bind, join_written read]
  rfl

/-- A template of which no placeholder names a variable is substituted as it is, if its placeholders can
be read. -/
theorem substitute_of_unknown
    (unknown : ∀ x ∈ holes (split text.toList), ∀ path, Path.ofChars (Text.trim x) = .ok path →
      others.lookup path = .null) :
    substitute text others =
      ((holes (split text.toList)).mapM fun x => Path.ofChars (Text.trim x)).map fun _ => text := by
  rw [substitute, mapM_substitute_of_unknown unknown]
  cases (holes (split text.toList)).mapM fun x => Path.ofChars (Text.trim x) with
  | error e => rfl
  | ok paths =>
      refine congrArg Except.ok ?_
      rw [join_chars, chars_split, String.ofList_toList]

/-- The tokens of a text are the text, cut at its placeholders: put together they are the text, those that
are placeholders stand where the text has its leftmost placeholders that do not overlap, which are all that
it has, no two of the others follow each other, and only the empty text has an empty one. Where no
placeholder refers to a value of a context, the text is rendered as it is. Where no placeholder leads to a
value among variables, it is substituted as it is or, if the path in a placeholder cannot be read, there is
the fault of the first such path. -/
theorem lossless_of_tokens (read : tokens text = .ok found) :
    String.join (found.map Token.written) = text ∧
    (found.IsChain fun a b => a.raw?.isSome ∨ b.raw?.isSome) ∧
    (.literal "" ∈ found → text = "") ∧
    ∃ places : List (Nat × List Char), Leftmost text.toList 0 places ∧
      (∀ i x, Occurs text.toList i x ↔ (i, x) ∈ places) ∧
      (placed (fun token => token.written.toList) Token.raw? 0 found =
        places.map fun place => (place.1, String.ofList (enclosed place.2))) ∧
      (∀ ctx, (∀ raw r, .placeholder raw (some r) ∈ found → r.resolve ctx = .null) →
        render ctx text = .ok text) ∧
      ∀ fillings : Value, (∀ place ∈ places, ∀ path, Path.ofChars (Text.trim place.2) = .ok path →
          fillings.lookup path = .null) →
        substitute text fillings =
          (places.mapM fun place => Path.ofChars (Text.trim place.2)).map fun _ => text := by
  have leftmost := leftmost_split [] text.toList
  have insides := map_snd_placed Piece.chars Piece.inside? 0 (split text.toList)
  refine ⟨join_written read, isChain_tokens read, eq_empty_of_literal read, _, leftmost,
    fun i x => leftmost.occurs_iff, placed_tokens read, fun ctx => render_of_unresolved read, ?_⟩
  intro fillings unknown
  rw [substitute_of_unknown, holes, ← insides, List.mapM_map]
  · rfl
  · intro x member
    rw [holes, ← insides] at member
    obtain ⟨place, inside, rfl⟩ := List.mem_map.mp member
    exact unknown place inside

/-- A digit that is none of a number cannot be read. -/
theorem ofChars_squared :
    Path.ofChars ['²'] = .error (.intLiteral 10 (Value.quotedLiteral "²")) := by
  have digits : Path.isDigits ['²'] = true := by decide +kernel
  have trimmed : Text.trim ['²'] = ['²'] := by decide +kernel
  have none : Reading.digits? 10 (Reading.splitSign (Reading.plain "²")).2 = none := by decide +kernel
  have text : String.ofList ['²'] = "²" := rfl
  rw [Path.ofChars_of_undotted (by decide), Path.ofToken, trimmed, if_neg (by decide), if_neg (by decide),
    if_pos digits, Path.indexOf, Value.readInt, text, Reading.int?_ten, none]
  rfl

/-- A placeholder that is no reference and leads to no value, as its path cannot be read: its text is cut
into tokens, and yet not substituted. -/
theorem squared_not_substituted :
    tokens "\x7b\x7b²\x7d\x7d" = .ok [.placeholder "\x7b\x7b²\x7d\x7d" none] ∧
    (¬∃ path, Path.ofChars ['²'] = .ok path ∧ (Value.ofFields []).lookup path ≠ .null) ∧
    substitute "\x7b\x7b²\x7d\x7d" (.ofFields []) =
      .error (.intLiteral 10 (Value.quotedLiteral "²")) := by
  have trimmed : Text.trim ['²'] = ['²'] := by decide +kernel
  have inside : holes (split "\x7b\x7b²\x7d\x7d".toList) = [['²']] := by cbv
  refine ⟨by cbv, ?_, ?_⟩
  · rintro ⟨path, read, -⟩
    cases ofChars_squared.symm.trans read
  · rw [substitute_of_unknown, inside, List.mapM_cons, trimmed, ofChars_squared]
    · rfl
    · intro x member path read
      rw [inside, List.mem_singleton] at member
      rw [member, trimmed] at read
      cases ofChars_squared.symm.trans read

/-- A placeholder behind a brace, two pairs of braces with nothing between them, and a reference. -/
def braces : String := "\x7b\x7b\x7b a \x7d\x7d\x7b\x7b\x7d\x7d\x7b\x7binput.b\x7d\x7d"

def bracesReference : Reference := ⟨"\x7b\x7binput.b\x7d\x7d", .input, [.key "b"]⟩

def bracesTokens : List Token :=
  [.literal "\x7b", .placeholder "\x7b\x7b a \x7d\x7d" none, .literal "\x7b\x7b\x7d\x7d",
    .placeholder "\x7b\x7binput.b\x7d\x7d" (some bracesReference)]

/-- Braces that enclose nothing are text, and a run without inputs leaves the reference as it is. -/
theorem lossless_of_tokens_braces :
    tokens braces = .ok bracesTokens ∧ String.join (bracesTokens.map Token.written) = braces ∧
    bracesReference.resolve {} = .null ∧ render {} braces = .ok braces := by
  have read : tokens braces = .ok bracesTokens := by cbv
  obtain ⟨joined, -, -, -, -, -, -, rendered, -⟩ := lossless_of_tokens read
  refine ⟨read, joined, rfl, rendered {} fun raw r member => ?_⟩
  obtain ⟨-, rfl⟩ : raw = "\x7b\x7binput.b\x7d\x7d" ∧ r = bracesReference := by
    simpa [bracesTokens] using member
  rfl

end Stepwise.Template
