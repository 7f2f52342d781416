import Mathlib.Data.List.Forall2
import Mathlib.Data.List.TakeWhile
import Stepwise.Proofs.Checked
import Stepwise.Reference.Resolution

/-!
Templates that are filled twice, first from the context of a run and then from variables. The
placeholders that the first pass leaves are found again by the second one, whatever stands around them,
and what the second pass puts in is not read again. The text that the first pass has put in is: it may
hold placeholders of its own, alone or together with the text around it.
-/

namespace Stepwise.Template

variable {s t a b x : List Char} {c : Char} {ps qs left : List Piece}

/-! ### Placeholders -/

/-- What may stand in a placeholder: something, and no braces. -/
structure Inside (x : List Char) : Prop where
  some : x ≠ []
  unbraced : ∀ c ∈ x, isBrace c = false

theorem inside_of_placeholder? {rest : List Char} (found : placeholder? s = some (x, rest)) :
    Inside x := by
  unfold placeholder? at found
  split at found
  · split at found
    · cases found
    · rename_i body _ _ front _ _ taken _
      cases found
      refine ⟨List.cons_ne_nil _ _, fun c member => ?_⟩
      rw [← taken] at member
      simpa using List.mem_takeWhile_imp member
    · cases found
  · cases found

theorem placeholder?_enclosed (inside : Inside x) (rest : List Char) :
    placeholder? (enclosed x ++ rest) = some (x, rest) := by
  have all : ∀ c ∈ x, (!isBrace c) = true := by
    intro c member
    rw [inside.unbraced c member]
    rfl
  have taken : (x ++ '\x7d' :: '\x7d' :: rest).takeWhile (fun c => !isBrace c) = x := by
    rw [List.takeWhile_append_of_pos all]
    exact List.append_nil x
  have dropped : (x ++ '\x7d' :: '\x7d' :: rest).dropWhile (fun c => !isBrace c) =
      '\x7d' :: '\x7d' :: rest := by
    rw [List.dropWhile_append_of_pos all]
    rfl
  obtain ⟨c, more, rfl⟩ := List.exists_cons_of_ne_nil inside.some
  simp only [enclosed, List.cons_append, List.append_assoc, List.nil_append, placeholder?] at taken dropped ⊢
  simp only [taken, dropped]

/-- Text that ends in front of two opening braces holds the placeholders that it holds by itself. -/
theorem placeholder?_append (some : a ≠ []) (t : List Char) :
    placeholder? (a ++ '\x7b' :: '\x7b' :: t) =
      (placeholder? a).map fun found => (found.1, found.2 ++ '\x7b' :: '\x7b' :: t) := by
  have brace : isBrace '\x7b' = true := rfl
  by_cases opens : ∃ body, a = '\x7b' :: '\x7b' :: body
  · obtain ⟨body, rfl⟩ := opens
    have taken : (body ++ '\x7b' :: '\x7b' :: t).takeWhile (fun c => !isBrace c) =
        body.takeWhile fun c => !isBrace c := by
      rw [List.takeWhile_append]
      split
      · rename_i whole
        rw [List.takeWhile_cons_of_neg (by simp [brace]), List.append_nil,
          (List.takeWhile_prefix _).eq_of_length whole]
      · rfl
    have dropped : (body ++ '\x7b' :: '\x7b' :: t).dropWhile (fun c => !isBrace c) =
        body.dropWhile (fun c => !isBrace c) ++ '\x7b' :: '\x7b' :: t := by
      rw [List.dropWhile_append]
      split
      · rename_i none
        rw [List.isEmpty_iff.mp none, List.dropWhile_cons_of_neg (by simp [brace]), List.nil_append]
      · rfl
    simp only [placeholder?, List.cons_append, taken, dropped]
    cases body.takeWhile fun c => !isBrace c with
    | nil => rfl
    | cons c front =>
        generalize body.dropWhile (fun c => !isBrace c) = rest
        rcases rest with _ | ⟨d, _ | ⟨e, rest⟩⟩
        · rfl
        · by_cases close : d = '\x7d' <;> simp [close]
        · by_cases close : d = '\x7d' <;> by_cases closed : e = '\x7d' <;> simp [close, closed]
  · have none : placeholder? a = none := by
      unfold placeholder?
      split
      · exact absurd ⟨_, rfl⟩ opens
      · rfl
    rw [none]
    rcases a with _ | ⟨c, _ | ⟨d, body⟩⟩
    · exact absurd rfl some
    · unfold placeholder?
      split
      · rename_i same
        cases same
        rfl
      · rfl
    · unfold placeholder?
      split
      · rename_i same
        cases same
        exact absurd ⟨_, rfl⟩ opens
      · rfl

/-! ### Splitting -/

theorem split_nil : split [] = [] := by
  rw [split]
  split
  · rename_i found
    cases found
  · rfl

theorem split_of_placeholder? {rest : List Char} (found : placeholder? s = some (x, rest)) :
    split s = .placeholder x :: split rest := by
  rw [split]
  split
  · rename_i inside after same
    cases found.symm.trans same
    rfl
  · rename_i none
    cases found.symm.trans none

theorem split_cons (none : placeholder? (c :: s) = none) :
    split (c :: s) = consLiteral c (split s) := by
  rw [split]
  split
  · rename_i found
    cases none.symm.trans found
  · rfl

theorem consLiteral_append : consLiteral c ps ++ .placeholder x :: qs =
    consLiteral c (ps ++ .placeholder x :: qs) := by
  cases ps with
  | nil => rfl
  | cons p rest => cases p <;> rfl

/-- A placeholder is found behind any text. -/
theorem split_append_enclosed (inside : Inside x) (a b : List Char) :
    split (a ++ (enclosed x ++ b)) = split a ++ .placeholder x :: split b := by
  induction a using split.induct with
  | case1 a y rest found _ ih =>
      have some : a ≠ [] := by
        rintro rfl
        cases found
      have further := placeholder?_append some (x ++ ['\x7d', '\x7d'] ++ b)
      rw [found] at further
      rw [split_of_placeholder? found, List.cons_append, ← ih]
      exact split_of_placeholder? further
  | case2 =>
      rw [split_nil]
      exact split_of_placeholder? (placeholder?_enclosed inside b)
  | case3 c rest none ih =>
      have further := placeholder?_append (List.cons_ne_nil c rest) (x ++ ['\x7d', '\x7d'] ++ b)
      rw [none] at further
      rw [split_cons none, consLiteral_append, ← ih]
      exact split_cons further

/-- The text of pieces. -/
def chars (ps : List Piece) : List Char := ps.flatMap Piece.chars

theorem chars_consLiteral : chars (consLiteral c ps) = c :: chars ps := by
  cases ps with
  | nil => rfl
  | cons p rest => cases p <;> rfl

theorem chars_split (s : List Char) : chars (split s) = s := by
  induction s using split.induct with
  | case1 s x rest found _ ih =>
      rw [split_of_placeholder? found, placeholder?_eq_some found]
      exact congrArg (enclosed x ++ ·) ih
  | case2 =>
      rw [split_nil]
      rfl
  | case3 c rest none ih => rw [split_cons none, chars_consLiteral, ih]

theorem placeholder_mem_consLiteral : .placeholder x ∈ consLiteral c ps ↔ .placeholder x ∈ ps := by
  cases ps with
  | nil => simp [consLiteral]
  | cons p rest => cases p <;> simp [consLiteral]

theorem inside_of_mem_split (member : .placeholder x ∈ split s) : Inside x := by
  induction s using split.induct with
  | case1 s y rest found _ ih =>
      rw [split_of_placeholder? found] at member
      rcases List.mem_cons.mp member with same | later
      · cases same
        exact inside_of_placeholder? found
      · exact ih later
  | case2 =>
      rw [split_nil] at member
      cases member
  | case3 c rest none ih =>
      rw [split_cons none, placeholder_mem_consLiteral] at member
      exact ih member

/-! ### Holes -/

def Piece.inside? : Piece → Option (List Char)
  | literal _ => none
  | placeholder inside => some inside

/-- What stands in the placeholders among pieces. -/
def holes (ps : List Piece) : List (List Char) := ps.filterMap Piece.inside?

theorem mem_holes : x ∈ holes ps ↔ .placeholder x ∈ ps := by
  rw [holes, List.mem_filterMap]
  constructor
  · rintro ⟨p, member, same⟩
    cases p with
    | literal text => cases same
    | placeholder inside =>
        cases same
        exact member
  · intro member
    exact ⟨_, member, rfl⟩

theorem holes_split_of_unbraced (unbraced : ∀ c ∈ a, isBrace c = false) : holes (split a) = [] := by
  rw [List.eq_nil_iff_forall_not_mem]
  intro x member
  have opening : '\x7b' ∈ chars (split a) :=
    List.mem_flatMap.mpr ⟨_, mem_holes.mp member, List.mem_cons_self⟩
  rw [chars_split] at opening
  cases unbraced _ opening

/-- The texts around the placeholders among pieces, the first of them behind another text. -/
def gaps (a : List Char) : List Piece → List (List Char)
  | [] => [a]
  | .literal text :: rest => gaps (a ++ text) rest
  | .placeholder _ :: rest => a :: gaps [] rest

/-- No placeholder that the text between those among the pieces holds has a value. -/
def Steady (others : Value) (ps : List Piece) : Prop :=
  ∀ gap ∈ gaps [] ps, ∀ x ∈ holes (split gap), ∀ path, Path.ofChars (Text.trim x) = .ok path →
    others.lookup path = .null

theorem unbraced_of_mem_gaps {gap : List Char} (before : ∀ c ∈ a, isBrace c = false)
    (unbraced : ∀ text, .literal text ∈ ps → ∀ c ∈ text, isBrace c = false) (member : gap ∈ gaps a ps) :
    ∀ c ∈ gap, isBrace c = false := by
  induction ps generalizing a with
  | nil =>
      rw [List.mem_singleton.mp member]
      exact before
  | cons p rest ih =>
      have later := fun text inside => unbraced text (List.mem_cons_of_mem p inside)
      cases p with
      | literal text =>
          have all : ∀ c ∈ a ++ text, isBrace c = false :=
            List.forall_mem_append.mpr ⟨before, unbraced text List.mem_cons_self⟩
          exact ih all later member
      | placeholder x =>
          rcases List.mem_cons.mp member with rfl | further
          · exact before
          · exact ih (List.forall_mem_nil _) later further

theorem steady_of_unbraced {others : Value}
    (unbraced : ∀ text, .literal text ∈ ps → ∀ c ∈ text, isBrace c = false) : Steady others ps := by
  intro gap member x hole
  have plain := unbraced_of_mem_gaps (List.forall_mem_nil _) unbraced member
  rw [holes_split_of_unbraced plain] at hole
  cases hole

/-! ### Substitution -/

variable {others : Value} {parts : List String}

theorem fill_of_ne_null {raw : String} {v : Value} (some : v ≠ .null) : fill raw v = v.inText := by
  cases v with
  | null => exact absurd rfl some
  | _ => rfl

theorem join_chars (ps : List Piece) :
    String.join (ps.map fun p => String.ofList p.chars) = String.ofList (chars ps) := by
  rw [← String.toList_inj, String.toList_join, List.flatMap_map, String.toList_ofList, chars]
  simp only [String.toList_ofList]

/-- Pieces whose placeholders have no values stay as they are, if what stands in the placeholders can be
read. -/
theorem mapM_substitute_of_unknown
    (unknown : ∀ x ∈ holes ps, ∀ path, Path.ofChars (Text.trim x) = .ok path → others.lookup path = .null) :
    ps.mapM (Piece.substitute others) =
      ((holes ps).mapM fun x => Path.ofChars (Text.trim x)).map fun _ =>
        ps.map fun p => String.ofList p.chars := by
  induction ps with
  | nil => rfl
  | cons p rest ih =>
      have later : ∀ x ∈ holes rest, ∀ path, Path.ofChars (Text.trim x) = .ok path →
          others.lookup path = .null := by
        intro x member
        exact unknown x (mem_holes.mpr (List.mem_cons_of_mem p (mem_holes.mp member)))
      rw [List.mapM_cons, ih later]
      cases p with
      | literal text =>
          change _ = Except.map _ ((holes rest).mapM _)
          cases (holes rest).mapM fun x => Path.ofChars (Text.trim x) <;> rfl
      | placeholder x =>
          change _ = Except.map _ ((x :: holes rest).mapM _)
          rw [List.mapM_cons, Piece.substitute]
          cases read : Path.ofChars (Text.trim x) with
          | error e => rfl
          | ok path =>
              have none := unknown x (mem_holes.mpr List.mem_cons_self) path read
              change (fill _ (others.lookup path) >>= _) = _
              rw [none]
              cases (holes rest).mapM fun x => Path.ofChars (Text.trim x) <;> rfl

theorem join_of_unknown
    (unknown : ∀ x ∈ holes ps, ∀ path, Path.ofChars (Text.trim x) = .ok path → others.lookup path = .null)
    (done : ps.mapM (Piece.substitute others) = .ok parts) :
    String.join parts = String.ofList (chars ps) := by
  rw [mapM_substitute_of_unknown unknown] at done
  cases read : (holes ps).mapM fun x => Path.ofChars (Text.trim x) with
  | error e =>
      rw [read] at done
      cases done
  | ok paths =>
      rw [read] at done
      cases done
      exact join_chars ps

/-- Steady pieces are filled as they are. The induction is on the pieces, behind the text that has been
gathered before the next placeholder. -/
theorem exists_of_substitute (closed : ∀ x, .placeholder x ∈ ps → Inside x) {a : List Char}
    (steady : ∀ gap ∈ gaps a ps, ∀ x ∈ holes (split gap), ∀ path,
      Path.ofChars (Text.trim x) = .ok path → others.lookup path = .null)
    (done : (split (a ++ chars ps)).mapM (Piece.substitute others) = .ok parts) :
    ∃ each, ps.mapM (Piece.substitute others) = .ok each ∧
      String.join parts = String.ofList a ++ String.join each := by
  induction ps generalizing a parts with
  | nil =>
      refine ⟨[], rfl, ?_⟩
      rw [chars, List.flatMap_nil, List.append_nil] at done
      rw [join_of_unknown (steady a (List.mem_singleton_self a)) done, chars_split]
      exact (String.append_empty).symm
  | cons p rest ih =>
      have later := fun x member => closed x (List.mem_cons_of_mem p member)
      cases p with
      | literal text =>
          have same : a ++ chars (.literal text :: rest) = (a ++ text) ++ chars rest :=
            (List.append_assoc a text _).symm
          rw [same] at done
          obtain ⟨each, filled, joined⟩ := ih later steady done
          refine ⟨String.ofList text :: each, Checked.mapM_cons_eq_ok.mpr ⟨_, _, rfl, filled, rfl⟩, ?_⟩
          rw [joined, String.join_cons, String.ofList_append, String.append_assoc]
      | placeholder x =>
          have before := steady a List.mem_cons_self
          have behind := fun gap member => steady gap (List.mem_cons_of_mem a member)
          change (split (a ++ (enclosed x ++ chars rest))).mapM _ = _ at done
          rw [split_append_enclosed (closed x List.mem_cons_self)] at done
          obtain ⟨first, second, start, further, rfl⟩ := Checked.mapM_append_eq_ok.mp done
          obtain ⟨part, more, here, rest, rfl⟩ := Checked.mapM_cons_eq_ok.mp further
          obtain ⟨each, filled, joined⟩ := ih later (a := []) behind rest
          refine ⟨part :: each, Checked.mapM_cons_eq_ok.mpr ⟨_, _, here, filled, rfl⟩, ?_⟩
          rw [String.join_append, join_of_unknown before start, chars_split, String.join_cons, joined,
            String.join_cons]
          rfl

/-! ### Two passes -/

/-- The inside of a placeholder stands for nothing that a context holds. -/
def Unfilled (ctx : Context) (inside : List Char) : Prop :=
  referenceOf inside = .ok none ∨ ∃ r, referenceOf inside = .ok (some r) ∧ r.resolve ctx = .null

/-- What the first pass makes of a piece. -/
inductive Piece.Renders (ctx : Context) : Piece → Piece → Prop where
  | literal (text : List Char) : Renders ctx (.literal text) (.literal text)
  | filled {inside : List Char} {r : Reference} {text : String}
      (refers : referenceOf inside = .ok (some r)) (some : r.resolve ctx ≠ .null)
      (shown : (r.resolve ctx).inText = .ok text) :
      Renders ctx (.placeholder inside) (.literal text.toList)
  | kept {inside : List Char} (unfilled : Unfilled ctx inside) :
      Renders ctx (.placeholder inside) (.placeholder inside)

/-- What takes the place of a piece that is filled once: for a placeholder, the text of the value that it
refers to, or else of the variable that it names. It stays as it is if there is no such value. -/
inductive Piece.Fills (ctx : Context) (others : Value) : Piece → String → Prop where
  | literal (text : List Char) : Fills ctx others (.literal text) (String.ofList text)
  | reference {inside : List Char} {r : Reference} {text : String}
      (refers : referenceOf inside = .ok (some r)) (some : r.resolve ctx ≠ .null)
      (shown : (r.resolve ctx).inText = .ok text) : Fills ctx others (.placeholder inside) text
  | name {inside : List Char} {path : Path} {text : String} (unfilled : Unfilled ctx inside)
      (read : Path.ofChars (Text.trim inside) = .ok path) (some : others.lookup path ≠ .null)
      (shown : (others.lookup path).inText = .ok text) : Fills ctx others (.placeholder inside) text
  | unknown {inside : List Char} {path : Path} (unfilled : Unfilled ctx inside)
      (read : Path.ofChars (Text.trim inside) = .ok path) (none : others.lookup path = .null) :
      Fills ctx others (.placeholder inside) (String.ofList (enclosed inside))

variable {ctx : Context} {p q : Piece}

theorem Unfilled.resolve_eq_null {r : Reference} (unfilled : Unfilled ctx x)
    (refers : referenceOf x = .ok (some r)) : r.resolve ctx = .null := by
  rcases unfilled with none | ⟨r', same, null⟩
  · cases none.symm.trans refers
  · cases same.symm.trans refers
    exact null

theorem Piece.rightUnique_renders : Relator.RightUnique (Piece.Renders ctx) := by
  intro p q q' one other
  cases one with
  | literal =>
      cases other
      rfl
  | filled refers some shown =>
      cases other with
      | filled refers' _ shown' =>
          cases refers.symm.trans refers'
          cases shown.symm.trans shown'
          rfl
      | kept unfilled => exact absurd (unfilled.resolve_eq_null refers) some
  | kept unfilled =>
      cases other with
      | filled refers some _ => exact absurd (unfilled.resolve_eq_null refers) some
      | kept => rfl

/-- There is one way to fill each piece once. -/
theorem Piece.rightUnique_fills : Relator.RightUnique (Piece.Fills ctx others) := by
  intro p part part' one other
  cases one with
  | literal =>
      cases other
      rfl
  | reference refers some shown =>
      cases other with
      | reference refers' _ shown' =>
          cases refers.symm.trans refers'
          cases shown.symm.trans shown'
          rfl
      | name unfilled => exact absurd (unfilled.resolve_eq_null refers) some
      | unknown unfilled => exact absurd (unfilled.resolve_eq_null refers) some
  | name unfilled read some shown =>
      cases other with
      | reference refers some' => exact absurd (unfilled.resolve_eq_null refers) some'
      | name _ read' _ shown' =>
          cases read.symm.trans read'
          cases shown.symm.trans shown'
          rfl
      | unknown _ read' none =>
          cases read.symm.trans read'
          exact absurd none some
  | unknown unfilled read none =>
      cases other with
      | reference refers some => exact absurd (unfilled.resolve_eq_null refers) some
      | name _ read' some =>
          cases read.symm.trans read'
          exact absurd none some
      | unknown => rfl

theorem Piece.Renders.fills {part : String} (renders : p.Renders ctx q)
    (substituted : q.substitute others = .ok part) : p.Fills ctx others part := by
  cases renders with
  | literal text =>
      cases substituted
      exact .literal text
  | @filled _ r text refers some shown =>
      cases substituted
      rw [String.ofList_toList]
      exact .reference refers some shown
  | kept unfilled =>
      obtain ⟨path, read, done⟩ := bind_eq_ok.mp substituted
      by_cases none : others.lookup path = .null
      · rw [none] at done
        cases done
        exact .unknown unfilled read none
      · rw [fill_of_ne_null none] at done
        exact .name unfilled read none done

theorem exists_renders_of_render {token : Token} {part : String} (read : Token.ofPiece p = .ok token)
    (rendered : token.render ctx = .ok part) : ∃ q, p.Renders ctx q ∧ part.toList = q.chars := by
  cases p with
  | literal text =>
      cases read
      cases rendered
      exact ⟨_, .literal text, String.toList_ofList⟩
  | placeholder inside =>
      obtain ⟨reference, refers, same⟩ := bind_eq_ok.mp read
      cases same
      cases reference with
      | none =>
          cases rendered
          exact ⟨_, .kept (Or.inl refers), String.toList_ofList⟩
      | some r =>
          change fill _ (r.resolve ctx) = _ at rendered
          by_cases none : r.resolve ctx = .null
          · rw [none] at rendered
            cases rendered
            exact ⟨_, .kept (Or.inr ⟨r, refers, none⟩), String.toList_ofList⟩
          · rw [fill_of_ne_null none] at rendered
            exact ⟨_, .filled refers none rendered, rfl⟩

theorem exists_renders_of_mapM {tokens : List Token} (read : ps.mapM Token.ofPiece = .ok tokens)
    (rendered : tokens.mapM (Token.render ctx) = .ok parts) :
    ∃ left, List.Forall₂ (Piece.Renders ctx) ps left ∧ String.join parts = String.ofList (chars left) := by
  induction ps generalizing tokens parts with
  | nil =>
      cases read
      cases rendered
      exact ⟨[], .nil, rfl⟩
  | cons p rest ih =>
      obtain ⟨token, others, here, later, rfl⟩ := Checked.mapM_cons_eq_ok.mp read
      obtain ⟨part, more, atToken, further, rfl⟩ := Checked.mapM_cons_eq_ok.mp rendered
      obtain ⟨q, renders, same⟩ := exists_renders_of_render here atToken
      obtain ⟨left, each, joined⟩ := ih later further
      refine ⟨q :: left, .cons renders each, ?_⟩
      rw [String.join_cons, joined, ← String.ofList_toList (s := part), same, ← String.ofList_append]
      rfl

/-- What the first pass makes of a text: its pieces, each filled or left as it is. -/
theorem exists_renders {text rendered : String} (done : render ctx text = .ok rendered) :
    ∃ left, List.Forall₂ (Piece.Renders ctx) (split text.toList) left ∧
      rendered = String.ofList (chars left) := by
  obtain ⟨found, read, done⟩ := bind_eq_ok.mp done
  obtain ⟨parts, each, done⟩ := bind_eq_ok.mp done
  cases done
  unfold tokens at read
  split at read
  · rename_i none
    cases read
    cases each
    rw [none]
    exact ⟨[], .nil, rfl⟩
  · exact exists_renders_of_mapM read each

theorem placeholder_mem_of_renders (renders : List.Forall₂ (Piece.Renders ctx) ps left)
    (member : .placeholder x ∈ left) : .placeholder x ∈ ps := by
  induction renders with
  | nil => cases member
  | cons here _ ih =>
      rcases List.mem_cons.mp member with rfl | later
      · cases here
        exact List.mem_cons_self
      · exact List.mem_cons_of_mem _ (ih later)

theorem fills_of_renders (renders : List.Forall₂ (Piece.Renders ctx) ps left)
    (done : left.mapM (Piece.substitute others) = .ok parts) :
    List.Forall₂ (Piece.Fills ctx others) ps parts := by
  induction renders generalizing parts with
  | nil =>
      cases done
      exact .nil
  | cons here _ ih =>
      obtain ⟨part, more, atPiece, further, rfl⟩ := Checked.mapM_cons_eq_ok.mp done
      exact .cons (here.fills atPiece) (ih further)

/-- Where the text that the first pass has put in holds no placeholder that has a value, both passes
together fill each piece once. -/
theorem exists_fills_of_substitute {content : String}
    (renders : List.Forall₂ (Piece.Renders ctx) (split s) left) (steady : Steady others left)
    (done : substitute (String.ofList (chars left)) others = .ok content) :
    ∃ parts, List.Forall₂ (Piece.Fills ctx others) (split s) parts ∧ content = String.join parts := by
  have closed (x : List Char) (member : .placeholder x ∈ left) : Inside x :=
    inside_of_mem_split (placeholder_mem_of_renders renders member)
  obtain ⟨parts, each, done⟩ := bind_eq_ok.mp done
  cases done
  rw [String.toList_ofList] at each
  obtain ⟨filled, substituted, joined⟩ := exists_of_substitute closed (a := []) steady each
  exact ⟨filled, fills_of_renders renders substituted, joined.trans (String.empty_append)⟩

end Stepwise.Template
