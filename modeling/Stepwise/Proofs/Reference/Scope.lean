import Stepwise.Proofs.Checked
import Stepwise.Proofs.Reference.Occurrence

/-!
Templates of which each placeholder names a scope. They are filled in the context of a run, where the path
behind the scope is looked up in what the scope holds, or from variables under the names of the scopes,
where the name is the first key of the path. Both come to the same text. They can part only in the fault
that they end with, as in a context all paths are read before the first value is written.
-/

namespace Stepwise

/-- What a context holds, under the names of its scopes. -/
def Context.holdings (ctx : Context) : Value :=
  .ofFields (Scope.all.map fun scope => (scope.name, ctx.scope scope))

namespace Template

variable {x s path : List Char} {text : String} {scope : Scope}

/-! ### One placeholder -/

theorem scoped?_opening (scope : Scope) (path : List Char) :
    Reference.scoped? (scope.opening ++ path) = some (scope, path) := by
  cases scope <;> rfl

theorem ofChars_opening (scope : Scope) (path : List Char) :
    Path.ofChars (scope.opening ++ path) = (Path.ofChars path).map (.key scope.name :: ·) := by
  have name : Path.ofChars scope.name.toList = .ok [.key scope.name] := by cases scope <;> cbv
  rw [Scope.opening, List.append_assoc, List.singleton_append, Path.ofChars_append_dot, name]
  cases Path.ofChars path <;> rfl

theorem lookup_holdings (ctx : Context) (scope : Scope) (path : Path) :
    Value.lookup (.key scope.name :: path) ctx.holdings = (ctx.scope scope).lookup path := by
  rw [Context.holdings, Value.lookup_of_name rfl]
  cases scope <;> rfl

theorem referenceOf_of_opening (opens : Text.trim x = scope.opening ++ path) : referenceOf x =
    (Path.ofChars path).map fun p => some ⟨String.ofList (enclosed x), scope, p⟩ := by
  rw [referenceOf, opens, scoped?_opening]
  change (Path.ofChars path >>= _) = _
  cases Path.ofChars path <;> rfl

/-- The text of a placeholder for a reference is what it is for a path from the scope. -/
theorem substitute_of_opening (opens : Text.trim x = scope.opening ++ path) (ctx : Context) :
    Piece.substitute ctx.holdings (.placeholder x) =
      Token.ofPiece (.placeholder x) >>= Token.render ctx := by
  rw [Piece.substitute, Token.ofPiece, referenceOf_of_opening opens, opens, ofChars_opening]
  cases Path.ofChars path with
  | error e => rfl
  | ok read =>
      change fill _ (Value.lookup (.key scope.name :: read) ctx.holdings) = fill _ _
      rw [lookup_holdings]
      rfl

/-- A placeholder for a reference can be read as far as the path from the scope can. -/
theorem ofPiece_of_opening (opens : Text.trim x = scope.opening ++ path) :
    Token.ofPiece (.placeholder x) = (Path.ofChars (Text.trim x)).map fun p =>
      .placeholder (String.ofList (enclosed x)) (some ⟨String.ofList (enclosed x), scope, p.tail⟩) := by
  rw [Token.ofPiece, referenceOf_of_opening opens, opens, ofChars_opening]
  cases Path.ofChars path <;> rfl

/-! ### Whole templates -/

/-- Each placeholder of a text names a scope. -/
def Scoped (s : List Char) : Prop :=
  ∀ i x, Occurs s i x → ∃ scope : Scope, scope.opening <+: Text.trim x

/-- The paths in all placeholders of a text can be read. -/
def Legible (s : List Char) : Prop := ∀ i x, Occurs s i x → ∃ path, Path.ofChars (Text.trim x) = .ok path

theorem exists_opening (within : Scoped s) (member : .placeholder x ∈ split s) :
    ∃ (scope : Scope) (path : List Char), Text.trim x = scope.opening ++ path := by
  obtain ⟨i, occurs⟩ := placeholder_mem_split_iff.mp member
  obtain ⟨scope, path, opens⟩ := within i x occurs
  exact ⟨scope, path, opens.symm⟩

theorem render_eq (ctx : Context) (text : String) : render ctx text =
    ((split text.toList).mapM Token.ofPiece >>= fun found => found.mapM (Token.render ctx)) >>=
      fun parts => pure (String.join parts) := by
  rw [render, tokens, bind_assoc]
  split
  · rename_i none
    rw [none]
    rfl
  · rfl

/-- Each piece is substituted as it is rendered. -/
theorem mapM_substitute (within : Scoped s) (ctx : Context) :
    (split s).mapM (Piece.substitute ctx.holdings) =
      (split s).mapM fun p => Token.ofPiece p >>= Token.render ctx := by
  apply Checked.mapM_congr
  intro p member
  cases p with
  | literal t => rfl
  | placeholder x =>
      obtain ⟨scope, path, opens⟩ := exists_opening within member
      exact substitute_of_opening opens ctx

theorem exists_tokens (within : Scoped s) (legible : Legible s) :
    ∃ found, (split s).mapM Token.ofPiece = .ok found := by
  cases read : (split s).mapM Token.ofPiece with
  | ok found => exact ⟨found, rfl⟩
  | error e =>
      obtain ⟨p, member, fault, failed⟩ := Checked.exists_mapM_eq_error_iff.mp ⟨e, read⟩
      cases p with
      | literal t => cases failed
      | placeholder x =>
          obtain ⟨scope, path, opens⟩ := exists_opening within member
          obtain ⟨i, occurs⟩ := placeholder_mem_split_iff.mp member
          obtain ⟨p, readable⟩ := legible i x occurs
          rw [ofPiece_of_opening opens, readable] at failed
          cases failed

theorem render_eq_substitute (within : Scoped text.toList) (legible : Legible text.toList)
    (ctx : Context) : render ctx text = substitute text ctx.holdings := by
  obtain ⟨found, read⟩ := exists_tokens within legible
  rw [render_eq, substitute, mapM_substitute within, ← Checked.mapM_of_mapM read, read]
  rfl

theorem render_eq_ok_iff (within : Scoped text.toList) (ctx : Context) {out : String} :
    render ctx text = .ok out ↔ substitute text ctx.holdings = .ok out := by
  rw [render_eq, substitute, mapM_substitute within, bind_eq_ok, bind_eq_ok]
  simp only [Checked.mapM_bind_mapM_eq_ok_iff]

theorem Occurs.of_take {i j : Nat} (occurs : Occurs (s.take i) j x) : j < i ∧ Occurs s j x := by
  have there := occurs.there
  rw [List.drop_take] at there
  refine ⟨?_, occurs.inside, there.trans (List.take_prefix _ _)⟩
  by_contra behind
  rw [Nat.sub_eq_zero_of_le (Nat.le_of_not_lt behind), List.take_zero, List.prefix_nil] at there
  cases there

/-- Where a path cannot be read there is a first such path. -/
theorem exists_illegible {i : Nat} {e : Fault} (occurs : Occurs s i x)
    (failed : Path.ofChars (Text.trim x) = .error e) : ∃ a y b f, s = a ++ (enclosed y ++ b) ∧
      Inside y ∧ Legible a ∧ Path.ofChars (Text.trim y) = .error f := by
  induction i using Nat.strong_induction_on generalizing x e with
  | _ i ih =>
      by_cases before : Legible (s.take i)
      · obtain ⟨rest, whole⟩ := occurs.there
        refine ⟨s.take i, x, rest, e, ?_, occurs.inside, before, failed⟩
        rw [whole, List.take_append_drop]
      · simp only [Legible, not_forall] at before
        obtain ⟨j, y, earlier, unread⟩ := before
        obtain ⟨lower, again⟩ := earlier.of_take
        cases read : Path.ofChars (Text.trim y) with
        | ok path => exact absurd ⟨path, read⟩ unread
        | error f => exact ih j lower again read

/-- Behind text whose paths can be read stands a placeholder whose path cannot: the fault of that path is
that of the template in a context, and from variables too if what stands before it can be substituted. -/
theorem illegible {a x b : List Char} {e : Fault} (whole : text.toList = a ++ (enclosed x ++ b))
    (inside : Inside x) (within : Scoped text.toList) (failed : Path.ofChars (Text.trim x) = .error e)
    (before : Legible a) (ctx : Context) :
    render ctx text = .error e ∧
      substitute text ctx.holdings =
        substitute (String.ofList a) ctx.holdings >>= fun _ => .error e := by
  have pieces : split text.toList = split a ++ .placeholder x :: split b := by
    rw [whole, split_append_enclosed inside]
  have member : .placeholder x ∈ split text.toList := by simp [pieces]
  have front : Scoped a := by
    intro i y occurs
    have held := placeholder_mem_split_iff.mpr ⟨i, occurs⟩
    have kept : .placeholder y ∈ split text.toList := pieces ▸ List.mem_append_left _ held
    obtain ⟨j, again⟩ := placeholder_mem_split_iff.mp kept
    exact within j y again
  obtain ⟨scope, path, opens⟩ := exists_opening within member
  obtain ⟨found, read⟩ := exists_tokens front before
  constructor
  · rw [render_eq, pieces, List.mapM_append, read, List.mapM_cons, ofPiece_of_opening opens, failed]
    rfl
  · have last : Piece.substitute ctx.holdings (.placeholder x) = .error e := by
      rw [Piece.substitute, failed]
      rfl
    rw [substitute, substitute, pieces, String.toList_ofList, List.mapM_append, List.mapM_cons, last]
    cases (split a).mapM (Piece.substitute ctx.holdings) <;> rfl

/-- A template of which each placeholder names a scope comes to the same text in a context and from what
the context holds under the names of its scopes, or to none in either. If the paths in its placeholders can
be read, the fault is the same too. Otherwise the template has the fault of the first path that cannot be
read, but from variables only if what stands before it can be substituted; else it has the fault of that. -/
theorem renders_as_substituted (within : Scoped text.toList) (ctx : Context) :
    (∀ out, render ctx text = .ok out ↔ substitute text ctx.holdings = .ok out) ∧
    ((Legible text.toList ∧ render ctx text = substitute text ctx.holdings) ∨
      ∃ a x b e, text.toList = a ++ (enclosed x ++ b) ∧ Inside x ∧ Legible a ∧
        Path.ofChars (Text.trim x) = .error e ∧ render ctx text = .error e ∧
        substitute text ctx.holdings =
          substitute (String.ofList a) ctx.holdings >>= fun _ => .error e) := by
  refine ⟨fun out => render_eq_ok_iff within ctx, ?_⟩
  by_cases legible : Legible text.toList
  · exact Or.inl ⟨legible, render_eq_substitute within legible ctx⟩
  · simp only [Legible, not_forall] at legible
    obtain ⟨i, x, occurs, unread⟩ := legible
    cases read : Path.ofChars (Text.trim x) with
    | ok path => exact absurd ⟨path, read⟩ unread
    | error e =>
        obtain ⟨a, y, b, f, whole, inside, before, failed⟩ := exists_illegible occurs read
        exact Or.inr ⟨a, y, b, f, whole, inside, before, failed,
          illegible whole inside within failed before ctx⟩

/-- A run in which a step has put out a mapping under a key that is no text. -/
def tupled : Context :=
  { results := [("a", .ofFields [("x", .dict [(.tuple [.int 1, .int 2], .int 3)])])] }

/-- A value without a text in front of a path that cannot be read. -/
def tupledText : String := "\x7b\x7bsteps.a.x\x7d\x7d\x7b\x7binput.²\x7d\x7d"

theorem split_tupled :
    split tupledText.toList = [.placeholder "steps.a.x".toList, .placeholder "input.²".toList] := by
  cbv

theorem scoped_tupled : Scoped tupledText.toList := by
  intro i x occurs
  have held := placeholder_mem_split_iff.mpr ⟨i, occurs⟩
  simp only [split_tupled, List.mem_cons, List.not_mem_nil, or_false, Piece.placeholder.injEq] at held
  rcases held with rfl | rfl
  · exact ⟨.steps, by decide +kernel⟩
  · exact ⟨.input, by decide +kernel⟩

/-- The text in front of the path that cannot be read. -/
def tupledFront : String := "\x7b\x7bsteps.a.x\x7d\x7d"

theorem split_tupledFront : split tupledFront.toList = [.placeholder "steps.a.x".toList] := by
  cbv

theorem ofChars_tupledFront :
    Path.ofChars (Text.trim "steps.a.x".toList) = .ok [.key "steps", .key "a", .key "x"] := by
  cbv

theorem substitute_tupledFront : substitute tupledFront tupled.holdings = .error (.jsonKey "tuple") := by
  rw [substitute, split_tupledFront, List.mapM_cons, Piece.substitute, ofChars_tupledFront]
  rfl

/-- In the context it is the path that ends the template, from variables it is the value. -/
theorem faults_of_tupled :
    Scoped tupledText.toList ∧
    render tupled tupledText = .error (.intLiteral 10 (Value.quotedLiteral "²")) ∧
    substitute tupledText tupled.holdings = .error (.jsonKey "tuple") := by
  have opens : Text.trim "input.²".toList = Scope.input.opening ++ ['²'] := by decide +kernel
  have member : .placeholder "input.²".toList ∈ split tupledText.toList := by
    rw [split_tupled]
    exact List.mem_cons_of_mem _ List.mem_cons_self
  have failed : Path.ofChars (Text.trim "input.²".toList) =
      .error (.intLiteral 10 (Value.quotedLiteral "²")) := by
    rw [opens, ofChars_opening, ofChars_squared]
    rfl
  have before : Legible tupledFront.toList := by
    intro i x occurs
    have held := placeholder_mem_split_iff.mpr ⟨i, occurs⟩
    rw [split_tupledFront] at held
    cases List.mem_singleton.mp held
    exact ⟨_, ofChars_tupledFront⟩
  obtain ⟨rendered, substituted⟩ :=
    illegible (b := []) rfl (inside_of_mem_split member) scoped_tupled failed before tupled
  rw [String.ofList_toList, substitute_tupledFront] at substituted
  exact ⟨scoped_tupled, rendered, substituted⟩

/-- A name and a list that a run holds, and an input that it lacks. -/
def greeting : String :=
  "\x7b\x7b input.name \x7d\x7d likes \x7b\x7bsteps.s.tags\x7d\x7d of \x7b\x7binput.all\x7d\x7d"

def greeted : Context :=
  { inputs := [(.text "name", .text "Ada")]
    results := [("s", .ofFields [("tags", .list [.text "tea", .text "milk"])])] }

theorem renders_as_substituted_greeting :
    Scoped greeting.toList ∧
    substitute greeting greeted.holdings = .ok "Ada likes tea, milk of \x7b\x7binput.all\x7d\x7d" ∧
    render greeted greeting = .ok "Ada likes tea, milk of \x7b\x7binput.all\x7d\x7d" := by
  have pieces : split greeting.toList = [.placeholder " input.name ".toList, .literal " likes ".toList,
      .placeholder "steps.s.tags".toList, .literal " of ".toList, .placeholder "input.all".toList] := by
    cbv
  have within : Scoped greeting.toList := by
    intro i x occurs
    have held := placeholder_mem_split_iff.mpr ⟨i, occurs⟩
    simp only [pieces, List.mem_cons, List.not_mem_nil, or_false, false_or, Piece.placeholder.injEq,
      reduceCtorEq] at held
    rcases held with rfl | rfl | rfl
    · exact ⟨.input, by decide +kernel⟩
    · exact ⟨.steps, by decide +kernel⟩
    · exact ⟨.input, by decide +kernel⟩
  have name : Path.ofChars (Text.trim " input.name ".toList) = .ok [.key "input", .key "name"] := by cbv
  have tags : Path.ofChars (Text.trim "steps.s.tags".toList) =
      .ok [.key "steps", .key "s", .key "tags"] := by cbv
  have all : Path.ofChars (Text.trim "input.all".toList) = .ok [.key "input", .key "all"] := by cbv
  have substituted : substitute greeting greeted.holdings =
      .ok "Ada likes tea, milk of \x7b\x7binput.all\x7d\x7d" := by
    rw [substitute, pieces]
    simp only [List.mapM_cons, Piece.substitute, name, tags, all]
    rfl
  exact ⟨within, substituted, ((renders_as_substituted within greeted).1 _).mpr substituted⟩

end Template

end Stepwise
