import Stepwise.Proofs.Checked
import Stepwise.Proofs.Value.Fields
import Stepwise.Reference.Resolution

/-!
What the inputs of a step come to in a context. They depend on what their references can see, and they
come to nothing only where a placeholder stands for a value that has no text.
-/

namespace Stepwise

/-! ### References -/

/-- Two contexts with the same inputs, and with the same outputs of the steps of some ids. -/
structure Context.Agree (known : String → Prop) (c d : Context) : Prop where
  inputs : c.inputs = d.inputs
  results : ∀ id, known id → Fields.get? c.results id = Fields.get? d.results id

namespace Reference

/-- A reference that looks among the inputs of the run, or among the outputs of a known step. -/
def Within (known : String → Prop) (r : Reference) : Prop :=
  r.scope = .input ∨ ∃ head, r.head? = some head ∧ known head

variable {known : String → Prop} {c d : Context}

/-- What a reference stands for is decided by the outputs of the step that it names. -/
theorem resolve_congr (agree : c.Agree known d) {r : Reference} (within : r.Within known) :
    r.resolve c = r.resolve d := by
  obtain ⟨raw, scope, path⟩ := r
  cases scope with
  | input => rw [resolve, resolve, Context.scope, Context.scope, agree.inputs]
  | steps =>
      rcases within with wrong | ⟨head, first, named⟩
      · cases wrong
      · cases path with
        | nil => cases first
        | cons segment rest =>
            cases segment with
            | index n => cases first
            | each => cases first
            | key name =>
                cases first
                simp only [resolve, Context.scope, Value.ofFields, Value.lookup, Value.child,
                  Segment.name?, Option.bind_some]
                rw [Value.lookupText?_fields, Value.lookupText?_fields, agree.results head named]

end Reference

/-! ### Templates -/

/-- The value is a template with a placeholder for a reference. -/
def Value.HasPlaceholder (v : Value) (r : Reference) : Prop :=
  Reference.ofValue v = .ok none ∧ ∃ s tokens raw, v.textOf? = some s ∧
    Text.contains ['\x7b', '\x7b'] s.toList = true ∧ Template.tokens s = .ok tokens ∧
    Template.Token.placeholder raw (some r) ∈ tokens

namespace Template

theorem exists_fill_eq_error_iff {raw : String} {v : Value} :
    (∃ e, fill raw v = .error e) ↔ ∃ e, v.inText = .error e := by
  cases v with
  | null =>
      rw [fill, Value.inText]
      exact iff_of_false (fun ⟨_, failed⟩ => nomatch failed) (fun ⟨_, failed⟩ => nomatch failed)
  | _ => rfl

theorem exists_render_eq_error_iff {ctx : Context} {tokens : List Token} :
    (∃ e, tokens.mapM (Token.render ctx) = .error e) ↔
      ∃ raw r, .placeholder raw (some r) ∈ tokens ∧ ∃ e, (r.resolve ctx).inText = .error e := by
  rw [Checked.exists_mapM_eq_error_iff]
  constructor
  · rintro ⟨token, member, e, failed⟩
    cases token with
    | literal text => cases failed
    | placeholder raw reference =>
        cases reference with
        | none => cases failed
        | some r => exact ⟨raw, r, member, exists_fill_eq_error_iff.mp ⟨e, failed⟩⟩
  · rintro ⟨raw, r, member, failed⟩
    exact ⟨_, member, exists_fill_eq_error_iff.mpr failed⟩

end Template

/-! ### Inputs -/

namespace Value

variable {known : String → Prop} {c d ctx : Context} {v : Value} {references : List Reference}

/-- A value whose references are known is a reference, a template or neither. -/
theorem allIn_cases (read : Reference.allIn v = .ok references) :
    (∃ r, Reference.ofValue v = .ok (some r) ∧ references = [r]) ∨
      (Reference.ofValue v = .ok none ∧ v.textOf? = none) ∨
      ∃ s tokens, Reference.ofValue v = .ok none ∧ v.textOf? = some s ∧
        Template.tokens s = .ok tokens ∧
        ∀ raw r, Template.Token.placeholder raw (some r) ∈ tokens → r ∈ references := by
  rw [Reference.allIn] at read
  cases whole : Reference.ofValue v with
  | error e =>
      rw [whole] at read
      cases read
  | ok found =>
      rw [whole] at read
      cases found with
      | some r =>
          cases read
          exact Or.inl ⟨r, rfl, rfl⟩
      | none =>
          cases text : v.textOf? with
          | none => exact Or.inr (Or.inl ⟨rfl, rfl⟩)
          | some s =>
              simp only [text] at read
              cases tokens : Template.tokens s with
              | error e =>
                  rw [tokens] at read
                  cases read
              | ok all =>
                  rw [tokens] at read
                  cases read
                  refine Or.inr (Or.inr ⟨s, all, rfl, rfl, tokens, ?_⟩)
                  intro raw r member
                  exact List.mem_filterMap.mpr ⟨_, member, rfl⟩

theorem resolve_of_reference {r : Reference} (whole : Reference.ofValue v = .ok (some r)) :
    v.resolve ctx = .ok (r.resolve ctx) := by
  rw [resolve, whole]
  rfl

theorem resolve_of_other (whole : Reference.ofValue v = .ok none) (other : v.textOf? = none) :
    v.resolve ctx = .ok v := by
  rw [resolve, whole]
  simp only [other]
  rfl

theorem resolve_of_template {s : String} {tokens : List Template.Token}
    (whole : Reference.ofValue v = .ok none) (text : v.textOf? = some s)
    (read : Template.tokens s = .ok tokens) :
    v.resolve ctx =
      if Text.contains ['\x7b', '\x7b'] s.toList then
        (tokens.mapM (Template.Token.render ctx)).map fun parts => .text (String.join parts)
      else .ok v := by
  rw [resolve, whole]
  simp only [text, Template.render, read]
  show (if _ then _ else _) = _
  split
  · show (tokens.mapM (Template.Token.render ctx) >>= _) >>= _ = _
    cases tokens.mapM (Template.Token.render ctx) <;> rfl
  · rfl

theorem resolve_congr (agree : c.Agree known d) (read : Reference.allIn v = .ok references)
    (within : ∀ r ∈ references, r.Within known) : v.resolve c = v.resolve d := by
  rcases allIn_cases read with ⟨r, whole, rfl⟩ | ⟨whole, other⟩ | ⟨s, tokens, whole, text, split, all⟩
  · rw [resolve_of_reference whole, resolve_of_reference whole,
      Reference.resolve_congr agree (within r List.mem_cons_self)]
  · rw [resolve_of_other whole other, resolve_of_other whole other]
  · have same : tokens.mapM (Template.Token.render c) = tokens.mapM (Template.Token.render d) := by
      apply Checked.mapM_congr
      intro token member
      cases token with
      | literal text => rfl
      | placeholder raw reference =>
          cases reference with
          | none => rfl
          | some r =>
              rw [Template.Token.render, Template.Token.render,
                Reference.resolve_congr agree (within r (all raw r member))]
    rw [resolve_of_template whole text split, resolve_of_template whole text split, same]

/-- A value whose references are known has no value only where a placeholder has no text. -/
theorem exists_resolve_eq_error_iff (read : Reference.allIn v = .ok references) :
    (∃ e, v.resolve ctx = .error e) ↔
      ∃ r, v.HasPlaceholder r ∧ ∃ e, (r.resolve ctx).inText = .error e := by
  rcases allIn_cases read with ⟨r, whole, -⟩ | ⟨whole, other⟩ | ⟨s, tokens, whole, text, split, -⟩
  · rw [resolve_of_reference whole]
    refine iff_of_false (fun ⟨_, failed⟩ => nomatch failed) ?_
    rintro ⟨_, ⟨none, -⟩, -⟩
    rw [whole] at none
    cases none
  · rw [resolve_of_other whole other]
    refine iff_of_false (fun ⟨_, failed⟩ => nomatch failed) ?_
    rintro ⟨_, ⟨-, _, _, _, some, -⟩, -⟩
    rw [other] at some
    cases some
  · rw [resolve_of_template whole text split]
    by_cases braces : Text.contains ['\x7b', '\x7b'] s.toList = true
    · rw [if_pos braces]
      constructor
      · rintro ⟨e, failed⟩
        cases rendered : tokens.mapM (Template.Token.render ctx) with
        | ok parts =>
            rw [rendered] at failed
            cases failed
        | error f =>
            obtain ⟨raw, r, member, noText⟩ := Template.exists_render_eq_error_iff.mp ⟨f, rendered⟩
            exact ⟨r, ⟨whole, s, tokens, raw, text, braces, split, member⟩, noText⟩
      · rintro ⟨r, ⟨-, t, others, raw, same, -, read, member⟩, noText⟩
        rw [text] at same
        cases same
        rw [split] at read
        cases read
        obtain ⟨e, failed⟩ := Template.exists_render_eq_error_iff.mpr ⟨raw, r, member, noText⟩
        exact ⟨e, by rw [failed]; rfl⟩
    · rw [if_neg braces]
      refine iff_of_false (fun ⟨_, failed⟩ => nomatch failed) ?_
      rintro ⟨_, ⟨-, t, _, _, same, within, -⟩, -⟩
      rw [text] at same
      cases same
      exact braces within

end Value

namespace Fields

variable {known : String → Prop} {c d ctx : Context} {fields : Fields}

theorem resolve_eq_mapM (ctx : Context) (fields : Fields) :
    resolve ctx fields = fields.mapM fun f => (f.2.resolve ctx).map (Prod.mk f.1) := by
  induction fields with
  | nil => rfl
  | cons field rest ih =>
      rw [resolve, ih, List.mapM_cons]
      cases field.2.resolve ctx <;> rfl

theorem resolve_cons {name : String} {v : Value} {resolved : Fields} :
    resolve ctx ((name, v) :: fields) = .ok resolved ↔
      ∃ x rest, v.resolve ctx = .ok x ∧ resolve ctx fields = .ok rest ∧
        resolved = (name, x) :: rest := by
  rw [resolve]
  cases v.resolve ctx with
  | error e => exact iff_of_false (fun failed => nomatch failed) (fun ⟨_, _, failed, _⟩ => nomatch failed)
  | ok x =>
      cases resolve ctx fields with
      | error e =>
          exact iff_of_false (fun failed => nomatch failed) (fun ⟨_, _, _, failed, _⟩ => nomatch failed)
      | ok rest =>
          constructor
          · intro same
            cases same
            exact ⟨x, rest, rfl, rfl, rfl⟩
          · rintro ⟨y, others, here, later, rfl⟩
            cases here
            cases later
            rfl

/-- Resolved fields hold under each name what its value comes to. -/
theorem get?_resolve {name : String} {resolved : Fields}
    (done : resolve ctx fields = .ok resolved) :
    (get? fields name = none → get? resolved name = none) ∧
      ∀ v, get? fields name = some v → ∃ x, v.resolve ctx = .ok x ∧ get? resolved name = some x := by
  induction fields generalizing resolved with
  | nil =>
      cases done
      exact ⟨fun absent => absent, fun v found => nomatch found⟩
  | cons field rest ih =>
      obtain ⟨x, others, here, later, rfl⟩ := resolve_cons.mp done
      by_cases same : field.1 = name
      · simpa [get?, same] using here
      · simpa [get?, same] using ih later

theorem names_resolve {resolved : Fields} (done : resolve ctx fields = .ok resolved) : names resolved = names fields := by
  induction fields generalizing resolved with
  | nil =>
      cases done
      rfl
  | cons field rest ih =>
      obtain ⟨x, others, -, later, rfl⟩ := resolve_cons.mp done
      exact congrArg (field.1 :: ·) (ih later)

theorem has_resolve {name : String} {resolved : Fields} (done : resolve ctx fields = .ok resolved) : has resolved name = has fields name := by
  rw [Bool.eq_iff_iff, has_iff, has_iff, names_resolve done]

theorem resolve_congr (agree : c.Agree known d)
    (within : ∀ f ∈ fields, ∃ references, Reference.allIn f.2 = .ok references ∧
      ∀ r ∈ references, r.Within known) : resolve c fields = resolve d fields := by
  rw [resolve_eq_mapM, resolve_eq_mapM]
  apply Checked.mapM_congr
  intro f member
  obtain ⟨references, read, inside⟩ := within f member
  rw [Value.resolve_congr agree read inside]

theorem exists_resolve_eq_error_iff
    (read : ∀ f ∈ fields, ∃ references, Reference.allIn f.2 = .ok references) :
    (∃ e, resolve ctx fields = .error e) ↔
      ∃ f ∈ fields, ∃ r, f.2.HasPlaceholder r ∧ ∃ e, (r.resolve ctx).inText = .error e := by
  rw [resolve_eq_mapM, Checked.exists_mapM_eq_error_iff]
  apply exists_congr
  intro f
  apply and_congr_right
  intro member
  obtain ⟨references, readField⟩ := read f member
  rw [← Value.exists_resolve_eq_error_iff readField]
  cases f.2.resolve ctx with
  | error e => exact iff_of_true ⟨e, rfl⟩ ⟨e, rfl⟩
  | ok v => exact iff_of_false (fun ⟨_, failed⟩ => nomatch failed) (fun ⟨_, failed⟩ => nomatch failed)

end Fields

end Stepwise
