import Stepwise.Proofs.Admission.Nested
import Stepwise.Proofs.Execution.Visits

/-!
Attempts in contexts that agree on the outputs of all steps. The inputs of a step come to the same in
both, so levels with the same steps in different orders are passed with the same attempts, and lead to
contexts that agree again.
-/

namespace Stepwise

/-! ### Contexts that agree -/

section Agree

variable {c d : Context}

/-- A reference that names something finds the same in contexts that agree on all steps. -/
theorem Reference.resolve_of_agree (agree : c.Agree (fun _ => True) d) {r : Reference}
    (some : r.path ≠ []) : r.resolve c = r.resolve d := by
  obtain ⟨raw, scope, path⟩ := r
  cases scope with
  | input => rw [resolve, resolve, Context.scope, Context.scope, agree.inputs]
  | steps =>
      obtain ⟨segment, rest, rfl⟩ := List.exists_cons_of_ne_nil some
      simp only [resolve, Context.scope, Value.ofFields]
      cases segment with
      | each => rfl
      | key name =>
          simp only [Value.lookup, Value.child, Segment.name?, Option.bind_some]
          rw [Value.lookupText?_fields, Value.lookupText?_fields, agree.results name trivial]
      | index n =>
          simp only [Value.lookup, Value.child, Segment.name?, Option.bind_some]
          rw [Value.lookupText?_fields, Value.lookupText?_fields, agree.results _ trivial]

theorem Template.render_of_agree (agree : c.Agree (fun _ => True) d) (s : String) :
    render c s = render d s := by
  rw [render, render]
  cases read : tokens s with
  | error f => rfl
  | ok found =>
      have same : found.mapM (Token.render c) = found.mapM (Token.render d) := by
        apply Checked.mapM_congr
        intro token member
        cases token with
        | literal text => rfl
        | placeholder raw reference =>
            cases reference with
            | none => rfl
            | some r =>
                rw [Token.render, Token.render,
                  Reference.resolve_of_agree agree (Reference.path_ne_nil_of_tokens read member)]
      show (found.mapM (Token.render c) >>= _) = (found.mapM (Token.render d) >>= _)
      rw [same]

theorem Value.resolve_of_agree (agree : c.Agree (fun _ => True) d) (v : Value) :
    v.resolve c = v.resolve d := by
  rw [resolve, resolve]
  cases whole : Reference.ofValue v with
  | error f => rfl
  | ok found =>
      cases found with
      | some r =>
          have single : Reference.allIn v = .ok [r] := by
            rw [Reference.allIn, whole]
            rfl
          have named := Reference.path_ne_nil single (List.mem_singleton_self r)
          show Except.ok (r.resolve c) = Except.ok (r.resolve d)
          rw [Reference.resolve_of_agree agree named]
      | none =>
          cases v.textOf? with
          | none => rfl
          | some s =>
              show (if _ then _ else _) = (if _ then _ else _)
              rw [Template.render_of_agree agree s]

/-- The inputs of a step come to the same in contexts that agree on all steps. -/
theorem Fields.resolve_of_agree (agree : c.Agree (fun _ => True) d) (fields : Fields) :
    resolve c fields = resolve d fields := by
  rw [resolve_eq_mapM, resolve_eq_mapM]
  apply Checked.mapM_congr
  intro f _
  rw [Value.resolve_of_agree agree]

end Agree

namespace StepResult

theorem all_cons_eq_ok {x : Checked StepResult} {rest : List (Checked StepResult)}
    {results : List StepResult} : all (x :: rest) = .ok results ↔
      ∃ r others, x = .ok r ∧ all rest = .ok others ∧ results = r :: others := by
  rw [all]
  cases x with
  | error f => exact iff_of_false (by rintro ⟨⟩) (by rintro ⟨_, _, ⟨⟩, -⟩)
  | ok r =>
      cases all rest with
      | error f => exact iff_of_false (by rintro ⟨⟩) (by rintro ⟨_, _, _, ⟨⟩, -⟩)
      | ok others =>
          constructor
          · intro done
            cases done
            exact ⟨r, others, rfl, rfl, rfl⟩
          · rintro ⟨_, _, here, later, rfl⟩
            cases here
            cases later
            rfl

theorem exists_all_of_perm {attempts others : List (Checked StepResult)} {results : List StepResult}
    (perm : attempts.Perm others) (done : all attempts = .ok results) :
    ∃ again, all others = .ok again ∧ results.Perm again := by
  induction perm generalizing results with
  | nil => exact ⟨results, done, .refl results⟩
  | cons x _ ih =>
      obtain ⟨r, more, rfl, later, rfl⟩ := all_cons_eq_ok.mp done
      obtain ⟨again, made, same⟩ := ih later
      exact ⟨r :: again, all_cons_eq_ok.mpr ⟨r, again, rfl, made, rfl⟩, same.cons r⟩
  | swap x y rest =>
      obtain ⟨r, _, rfl, later, rfl⟩ := all_cons_eq_ok.mp done
      obtain ⟨s, more, rfl, last, rfl⟩ := all_cons_eq_ok.mp later
      have inner : all (.ok r :: rest) = .ok (r :: more) :=
        all_cons_eq_ok.mpr ⟨r, more, rfl, last, rfl⟩
      exact ⟨s :: r :: more, all_cons_eq_ok.mpr ⟨s, r :: more, rfl, inner, rfl⟩, .swap s r more⟩
  | trans _ _ first second =>
      obtain ⟨middle, made, one⟩ := first done
      obtain ⟨again, remade, two⟩ := second made
      exact ⟨again, remade, one.trans two⟩

end StepResult

namespace Levels

variable {a : Attempts} {c d final : Context} {steps others : List Step}
  {levels levels' : List (List Step)} {results again : List StepResult} {visits : List Visit}

/-! ### Levels in another order -/

theorem recorded_cons (r : StepResult) : recorded c (r :: results) =
    recorded { c with results := Fields.set c.results r.step (.ofFields r.outputs) } results := rfl

theorem get?_recorded_of_not_mem {name : String} (absent : name ∉ results.map (·.step)) :
    Fields.get? (recorded c results).results name = Fields.get? c.results name := by
  induction results generalizing c with
  | nil => rfl
  | cons r rest ih =>
      rw [List.map_cons, List.mem_cons, not_or] at absent
      rw [recorded_cons, ih absent.2]
      exact Fields.get?_set_of_ne (Ne.symm absent.1)

theorem get?_recorded (distinct : (results.map (·.step)).Nodup) {r : StepResult}
    (member : r ∈ results) :
    Fields.get? (recorded c results).results r.step = some (.ofFields r.outputs) := by
  induction results generalizing c with
  | nil => cases member
  | cons s rest ih =>
      rw [List.map_cons, List.nodup_cons] at distinct
      rw [recorded_cons]
      rcases List.mem_cons.mp member with rfl | later
      · rw [get?_recorded_of_not_mem distinct.1]
        exact Fields.get?_set_self
      · exact ih distinct.2 later

theorem agree_recorded (agree : c.Agree (fun _ => True) d) (perm : results.Perm again)
    (distinct : (results.map (·.step)).Nodup) :
    (recorded c results).Agree (fun _ => True) (recorded d again) := by
  have steps := perm.map (·.step)
  refine ⟨agree.inputs, fun name _ => ?_⟩
  by_cases known : name ∈ results.map (·.step)
  · obtain ⟨r, member, rfl⟩ := List.mem_map.mp known
    rw [get?_recorded distinct member,
      get?_recorded (steps.nodup_iff.mp distinct) (perm.mem_iff.mp member)]
  · rw [get?_recorded_of_not_mem known,
      get?_recorded_of_not_mem (fun there => known (steps.mem_iff.mpr there)),
      agree.results name trivial]

/-- Attempts at some steps that come to the same in contexts that agree, in runs of two ids. -/
def Steady (steps : List Step) (run run' : String) (a : Attempts) : Prop :=
  ∀ s ∈ steps, ∀ c d : Context, c.Agree (fun _ => True) d → c.run = run → d.run = run' →
    a c s = a d s

theorem Steady.mono (steady : Steady steps c.run d.run a) (among : others ⊆ steps) :
    Steady others c.run d.run a :=
  fun s member => steady s (among member)

theorem Steady.map_perm (steady : Steady steps c.run d.run a) (agree : c.Agree (fun _ => True) d)
    (perm : steps.Perm others) : (steps.map (a c)).Perm (others.map (a d)) := by
  have same : steps.map (a c) = steps.map (a d) :=
    List.map_congr_left fun s member => steady s member c d agree rfl rfl
  rw [same]
  exact perm.map _

def came (a : Attempts) (v : Visit) : Step × Checked StepResult := (v.step, a v.context v.step)

theorem Steady.came_perm (steady : Steady steps c.run d.run a) (agree : c.Agree (fun _ => True) d)
    (perm : steps.Perm others) :
    ((steps.map (Visit.mk c)).map (came a)).Perm ((others.map (Visit.mk d)).map (came a)) := by
  have same : (steps.map (Visit.mk c)).map (came a) = (steps.map (Visit.mk d)).map (came a) := by
    rw [List.map_map, List.map_map]
    refine List.map_congr_left fun s member => ?_
    show (s, a c s) = (s, a d s)
    rw [steady s member c d agree rfl rfl]
  rw [same]
  exact (perm.map _).map _

/-- A run that passes some levels passes them with their steps in another order, and comes to a context
that agrees with its own. -/
theorem Passes.rearranged (perm : List.Forall₂ List.Perm levels levels') (named : Named a)
    (distinct : (levels.flatten.map (·.id)).Nodup) (agree : c.Agree (fun _ => True) d)
    (steady : Steady levels.flatten c.run d.run a) (passes : Passes a c levels visits final) :
    ∃ visits' final', Passes a d levels' visits' final' ∧ final.Agree (fun _ => True) final' ∧
      (visits.map (came a)).Perm (visits'.map (came a)) := by
  -- The invariant is that the contexts agree: then the attempts of the next level come to the same.
  induction passes generalizing d levels' with
  | nil =>
      cases perm
      exact ⟨[], d, .nil, agree, .nil⟩
  | @cons c final steps rest results visits done clean later ih =>
      cases perm with
      | @cons _ others _ more here perms =>
          rw [List.flatten_cons] at distinct steady
          rw [List.map_append, List.nodup_append] at distinct
          have steadyHere := steady.mono (List.subset_append_left steps rest.flatten)
          obtain ⟨again, redone, same⟩ :=
            StepResult.exists_all_of_perm (steadyHere.map_perm agree here) done
          have ids : results.map (·.step) = steps.map (·.id) := by
            have entries := entries_of_done named (StepResult.eq_map_of_all_eq_ok done)
            simpa [Visit.entry, Function.comp_def] using (congrArg (List.map (·.1)) entries).symm
          have clean' : firstFailure? again = none := by
            rw [firstFailure?_eq_none] at clean ⊢
            exact fun r member => clean r (same.mem_iff.mpr member)
          obtain ⟨visits', final', passes', agree', came'⟩ := ih perms distinct.2.1
            (agree_recorded agree same (ids ▸ distinct.1))
            (steady.mono (List.subset_append_right steps rest.flatten))
          refine ⟨_, final', .cons redone clean' passes', agree', ?_⟩
          rw [List.map_append, List.map_append]
          exact (steadyHere.came_perm agree here).append came'

theorem Passes.run_append (passes : Passes a c levels visits final) (rest : List (List Step)) :
    run (noting a) c (levels ++ rest) =
      ⟨(run (noting a) final rest).value, visits ++ (run (noting a) final rest).visits⟩ := by
  induction passes with
  | nil => rfl
  | cons done clean later ih =>
      rw [List.cons_append, run_noting_cons_of_clean done clean, ih, List.append_assoc]

inductive Reports (a : Attempts) (c : Context) (steps : List Step) : Ending → Prop where
  | mk {s : Step} {message : String} (member : s ∈ steps)
      (failed : a c s = .ok ⟨s.id, .failed message⟩) :
      Reports a c steps (.failed s.id (failureText message))

theorem exists_reports (named : Named a) {step text : String}
    (done : StepResult.all (steps.map (a c)) = .ok results)
    (first : firstFailure? results = some (step, text)) :
    Reports a c steps (.failed step text) := by
  obtain ⟨r, member, here⟩ := List.exists_of_findSome?_eq_some first
  obtain ⟨message, failed, same⟩ := Option.map_eq_some_iff.mp here
  cases same
  have among : Except.ok r ∈ steps.map (a c) := by
    rw [StepResult.eq_map_of_all_eq_ok done]
    exact List.mem_map.mpr ⟨r, member, rfl⟩
  obtain ⟨s, present, made⟩ := List.mem_map.mp among
  have id := named c s r made
  obtain ⟨id', outcome⟩ := r
  cases outcome with
  | completed outputs => cases failed
  | failed text =>
      cases failed
      cases id
      exact .mk present made

/-- A run that stops in a level stops in it with its steps in another order: with a fault if it does so
with a fault, and otherwise with the failure of a step. -/
theorem Stops.rearranged (named : Named a) (perm : steps.Perm others)
    (agree : c.Agree (fun _ => True) d) (steady : Steady steps c.run d.run a)
    {ending : Checked Ending} (stops : Stops a c steps ending) :
    (∃ f f', ending = .error f ∧ Stops a d others (.error f')) ∨
      ∃ e e', ending = .ok e ∧ Stops a d others (.ok e') ∧ Reports a c steps e ∧
        Reports a d others e' := by
  have perms := steady.map_perm agree perm
  cases stops with
  | @fault f failed =>
      refine Or.inl ⟨f, ?_⟩
      cases again : StepResult.all (others.map (a d)) with
      | error f' => exact ⟨f', rfl, .fault again⟩
      | ok results =>
          obtain ⟨_, done, -⟩ := StepResult.exists_all_of_perm perms.symm again
          rw [failed] at done
          cases done
  | @failure results step message done first =>
      obtain ⟨again, redone, same⟩ := StepResult.exists_all_of_perm perms done
      cases second : firstFailure? again with
      | none =>
          have clean : firstFailure? results = none := by
            rw [firstFailure?_eq_none] at second ⊢
            exact fun r member => second r (same.mem_iff.mp member)
          rw [first] at clean
          cases clean
      | some failure =>
          exact Or.inr ⟨_, .failed failure.1 failure.2, rfl, .failure redone second,
            exists_reports named done first, exists_reports named redone second⟩

end Levels

end Stepwise
