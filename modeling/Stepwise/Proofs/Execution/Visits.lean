import Stepwise.Execution.Levels
import Stepwise.Proofs.Value.Fields

/-!
The attempts that a run through levels makes, each with its context. While no step fails, a context
holds the outputs of all attempts of the levels before it; the run ends with the first level in which
a step fails or cannot be recorded, or else with the outputs of all attempts.
-/

namespace Stepwise

/-- A step that is attempted, and the context that it is attempted in. -/
structure Visit where
  context : Context
  step : Step
  deriving Inhabited

/-- A result with the attempts that were made for it, in order. -/
structure Noted (α : Type) where
  value : α
  visits : List Visit := []

instance : Monad Noted where
  pure a := { value := a }
  bind x f :=
    let y := f x.value
    ⟨y.value, x.visits ++ y.visits⟩

namespace Levels

/-- What the attempts at steps give. -/
abbrev Attempts := Context → Step → Checked StepResult

/-- Attempts that are noted. -/
def noting (attempt : Attempts) : Runner Noted := fun ctx s => ⟨attempt ctx s, [⟨ctx, s⟩]⟩

variable {attempt : Attempts} {ctx final : Context} {levels rest : List (List Step)}
  {steps : List Step} {visits before : List Visit}

/-! ### One level -/

theorem attemptAll_noting (attempt : Attempts) (ctx : Context) (steps : List Step) :
    attemptAll (noting attempt) ctx steps = ⟨steps.map (attempt ctx), steps.map (Visit.mk ctx)⟩ := by
  induction steps with
  | nil => rfl
  | cons s rest ih =>
      simp only [attemptAll, bind, pure, ih, noting, List.map_cons, List.append_nil,
        List.singleton_append]

/-- How a run ends in a level: with a fault, or with the failure of a step. -/
inductive Stops (attempt : Attempts) (ctx : Context) (steps : List Step) : Checked Ending → Prop where
  | fault {f : Fault} (failed : StepResult.all (steps.map (attempt ctx)) = .error f) :
      Stops attempt ctx steps (.error f)
  | failure {results : List StepResult} {step message : String}
      (done : StepResult.all (steps.map (attempt ctx)) = .ok results)
      (first : firstFailure? results = some (step, message)) :
      Stops attempt ctx steps (.ok (.failed step message))

/-- How a run passes levels without a failure: the attempts that it makes, and the context that it
comes to. -/
inductive Passes (attempt : Attempts) : Context → List (List Step) → List Visit → Context → Prop where
  | nil {ctx : Context} : Passes attempt ctx [] [] ctx
  | cons {ctx final : Context} {steps : List Step} {rest : List (List Step)}
      {results : List StepResult} {visits : List Visit}
      (done : StepResult.all (steps.map (attempt ctx)) = .ok results)
      (clean : firstFailure? results = none)
      (later : Passes attempt (recorded ctx results) rest visits final) :
      Passes attempt ctx (steps :: rest) (steps.map (Visit.mk ctx) ++ visits) final

theorem run_noting_cons_of_stops {ending : Checked Ending} (stops : Stops attempt ctx steps ending) :
    run (noting attempt) ctx (steps :: rest) = ⟨ending, steps.map (Visit.mk ctx)⟩ := by
  cases stops with
  | fault failed => simp only [run, attemptAll_noting, bind, pure, failed, List.append_nil]
  | failure done first =>
      simp only [run, attemptAll_noting, bind, pure, done, first, List.append_nil]

theorem run_noting_cons_of_clean {results : List StepResult}
    (done : StepResult.all (steps.map (attempt ctx)) = .ok results)
    (clean : firstFailure? results = none) :
    run (noting attempt) ctx (steps :: rest) =
      ⟨(run (noting attempt) (recorded ctx results) rest).value,
        steps.map (Visit.mk ctx) ++ (run (noting attempt) (recorded ctx results) rest).visits⟩ := by
  simp only [run, attemptAll_noting, bind, done, clean]

/-! ### All levels -/

/-- A run passes all levels, or stops in one of them after it has passed those before it. -/
theorem run_noting (attempt : Attempts) (ctx : Context) (levels : List (List Step)) :
    (∃ visits final, Passes attempt ctx levels visits final ∧
        run (noting attempt) ctx levels = ⟨.ok (.completed final.results), visits⟩) ∨
      ∃ pre steps post before at' ending, levels = pre ++ steps :: post ∧
        Passes attempt ctx pre before at' ∧ Stops attempt at' steps ending ∧
        run (noting attempt) ctx levels = ⟨ending, before ++ steps.map (Visit.mk at')⟩ := by
  induction levels generalizing ctx with
  | nil => exact Or.inl ⟨[], ctx, .nil, rfl⟩
  | cons steps rest ih =>
      cases done : StepResult.all (steps.map (attempt ctx)) with
      | error f =>
          exact Or.inr ⟨[], steps, rest, [], ctx, .error f, rfl, .nil, .fault done,
            run_noting_cons_of_stops (.fault done)⟩
      | ok results =>
          cases first : firstFailure? results with
          | some failure =>
              exact Or.inr ⟨[], steps, rest, [], ctx, _, rfl, .nil, .failure done first,
                run_noting_cons_of_stops (.failure done first)⟩
          | none =>
              rcases ih (recorded ctx results) with
                ⟨visits, final, passes, ran⟩ |
                ⟨pre, later, post, before, at', ending, split, passes, stops, ran⟩
              · refine Or.inl ⟨_, final, .cons done first passes, ?_⟩
                rw [run_noting_cons_of_clean done first, ran]
              · refine Or.inr ⟨steps :: pre, later, post, _, at', ending, ?_,
                  .cons done first passes, stops, ?_⟩
                · rw [split, List.cons_append]
                · rw [run_noting_cons_of_clean done first, ran, List.append_assoc]

/-- What a run gives does not depend on what its attempts do beside. -/
theorem run_value (attempt : Runner Traced) (ctx : Context) (levels : List (List Step)) :
    (run attempt ctx levels).value =
      (run (noting fun c s => (attempt c s).value) ctx levels).value := by
  have attempts (c : Context) (steps : List Step) :
      (attemptAll attempt c steps).value = steps.map fun s => (attempt c s).value := by
    induction steps with
    | nil => rfl
    | cons s rest ih => simp only [attemptAll, bind, pure, ih, List.map_cons]
  induction levels generalizing ctx with
  | nil => rfl
  | cons steps rest ih =>
      simp only [run, bind, attempts, attemptAll_noting]
      cases StepResult.all (steps.map fun s => (attempt ctx s).value) with
      | error f => rfl
      | ok results =>
          cases first : firstFailure? results with
          | some failure =>
              simp only [first]
              rfl
          | none =>
              simp only [first]
              exact ih (recorded ctx results)

/-! ### The attempts of the levels that are begun -/

/-- The attempts of a run in the levels that it begins: it passes all of them but perhaps the last. -/
inductive Goes (attempt : Attempts) : Context → List (List Step) → List Visit → Prop where
  | nil {ctx : Context} : Goes attempt ctx [] []
  | last {ctx : Context} {steps : List Step} :
      Goes attempt ctx [steps] (steps.map (Visit.mk ctx))
  | cons {ctx : Context} {steps : List Step} {rest : List (List Step)}
      {results : List StepResult} {visits : List Visit}
      (done : StepResult.all (steps.map (attempt ctx)) = .ok results)
      (clean : firstFailure? results = none)
      (later : Goes attempt (recorded ctx results) rest visits) :
      Goes attempt ctx (steps :: rest) (steps.map (Visit.mk ctx) ++ visits)

theorem Passes.goes (passes : Passes attempt ctx levels visits final) :
    Goes attempt ctx levels visits := by
  induction passes with
  | nil => exact .nil
  | cons done clean later ih => exact .cons done clean ih

theorem Passes.goes_snoc (passes : Passes attempt ctx levels before final) (steps : List Step) :
    Goes attempt ctx (levels ++ [steps]) (before ++ steps.map (Visit.mk final)) := by
  induction passes with
  | nil => exact .last
  | cons done clean later ih =>
      rw [List.append_assoc]
      exact .cons done clean ih

theorem map_step_mk (ctx : Context) (steps : List Step) :
    (steps.map (Visit.mk ctx)).map (·.step) = steps := by
  rw [List.map_map]
  exact List.map_id steps

theorem Goes.map_step (goes : Goes attempt ctx levels visits) :
    visits.map (·.step) = levels.flatten := by
  induction goes with
  | nil => rfl
  | last => rw [map_step_mk, List.flatten_singleton]
  | cons done clean later ih => rw [List.map_append, map_step_mk, ih, List.flatten_cons]

/-- An attempt is made in its level, in the context that the run has come to by passing the levels
before. -/
theorem Goes.split (goes : Goes attempt ctx levels visits) {v : Visit} (member : v ∈ visits) :
    ∃ pre steps post before after, levels = pre ++ steps :: post ∧
      visits = before ++ (steps.map (Visit.mk v.context) ++ after) ∧ v.step ∈ steps ∧
      Passes attempt ctx pre before v.context ∧ after.map (·.step) = post.flatten := by
  induction goes with
  | nil => cases member
  | @last ctx steps =>
      obtain ⟨s, inside, rfl⟩ := List.mem_map.mp member
      exact ⟨[], steps, [], [], [], rfl, (List.append_nil _).symm, inside, .nil, rfl⟩
  | @cons ctx steps rest results visits done clean later ih =>
      rcases List.mem_append.mp member with here | further
      · obtain ⟨s, inside, rfl⟩ := List.mem_map.mp here
        exact ⟨[], steps, rest, [], visits, rfl, rfl, inside, .nil, later.map_step⟩
      · obtain ⟨pre, inner, post, before, after, rfl, rfl, inside, passes, same⟩ := ih further
        exact ⟨steps :: pre, inner, post, _, after, rfl, (List.append_assoc _ _ _).symm, inside,
          .cons done clean passes, same⟩

/-! ### Contexts -/

/-- Results bear the ids of their steps. -/
def Named (attempt : Attempts) : Prop := ∀ ctx s r, attempt ctx s = .ok r → r.step = s.id

end Levels

namespace Visit

variable (attempt : Levels.Attempts)

/-- The attempt has outputs. -/
def Completes (v : Visit) : Prop :=
  ∃ r, attempt v.context v.step = .ok r ∧ r.failure? = none

/-- What is recorded of the attempt: the id of the step, with its outputs. -/
def entry (v : Visit) : String × Value :=
  (v.step.id, .ofFields (match attempt v.context v.step with
    | .ok r => r.outputs
    | .error _ => []))

end Visit

namespace StepResult

theorem all_map_ok (results : List StepResult) : all (results.map .ok) = .ok results := by
  induction results with
  | nil => rfl
  | cons r rest ih =>
      rw [List.map_cons, all, ih]
      rfl

theorem eq_map_of_all_eq_ok {attempts : List (Checked StepResult)} {results : List StepResult}
    (done : all attempts = .ok results) : attempts = results.map .ok := by
  induction attempts generalizing results with
  | nil =>
      cases done
      rfl
  | cons first rest ih =>
      cases first with
      | error f => cases done
      | ok r =>
          rw [all] at done
          cases others : all rest with
          | error f =>
              rw [others] at done
              cases done
          | ok more =>
              rw [others] at done
              cases done
              rw [ih others, List.map_cons]

theorem mem_of_all_eq_error {attempts : List (Checked StepResult)} {f : Fault}
    (failed : all attempts = .error f) : .error f ∈ attempts := by
  induction attempts with
  | nil => cases failed
  | cons first rest ih =>
      cases first with
      | error g =>
          cases failed
          exact List.mem_cons_self
      | ok r =>
          rw [all] at failed
          cases others : all rest with
          | error g =>
              rw [others] at failed
              cases failed
              exact List.mem_cons_of_mem _ (ih others)
          | ok more =>
              rw [others] at failed
              cases failed

end StepResult

namespace Levels

variable {attempt : Attempts} {ctx final : Context} {levels : List (List Step)}
  {results : List StepResult} {visits : List Visit}

theorem firstFailure?_eq_none : firstFailure? results = none ↔ ∀ r ∈ results, r.failure? = none := by
  simp only [firstFailure?, List.findSome?_eq_none_iff, Option.map_eq_none_iff]

/-- Outputs of new steps are put behind those that are there. -/
theorem recorded_results (fresh : (Fields.names ctx.results ++ results.map (·.step)).Nodup) :
    (recorded ctx results).results =
      ctx.results ++ results.map fun r => (r.step, .ofFields r.outputs) := by
  simp only [recorded]
  generalize ctx.results = fields at fresh
  induction results generalizing fields with
  | nil => exact (List.append_nil fields).symm
  | cons r rest ih =>
      have absent : Fields.has fields r.step = false := by
        rw [Bool.eq_false_iff, ne_eq, Fields.has_iff]
        intro present
        exact List.disjoint_of_nodup_append fresh present List.mem_cons_self
      rw [List.foldl_cons, Fields.set, absent, ih]
      · simp
      · simpa [Fields.names] using fresh

theorem entries_of_done {steps : List Step} (named : Named attempt)
    (done : steps.map (attempt ctx) = results.map .ok) :
    (steps.map (Visit.mk ctx)).map (Visit.entry attempt) =
      results.map fun r => (r.step, .ofFields r.outputs) := by
  induction steps generalizing results with
  | nil =>
      rw [List.map_nil, eq_comm, List.map_eq_nil_iff] at done
      rw [done]
      rfl
  | cons s rest ih =>
      cases results with
      | nil => cases done
      | cons r more =>
          obtain ⟨here, others⟩ := List.cons.inj done
          rw [List.map_cons, List.map_cons, List.map_cons, ih others, Visit.entry, here,
            named ctx s r here]

/-- By passing levels with new steps a context gains the outputs of their attempts, and nothing
else. -/
theorem Passes.results_eq (named : Named attempt) (passes : Passes attempt ctx levels visits final)
    (fresh : (Fields.names ctx.results ++ levels.flatten.map (·.id)).Nodup) :
    final.results = ctx.results ++ visits.map (Visit.entry attempt) := by
  induction passes with
  | nil => exact (List.append_nil _).symm
  | @cons ctx final steps rest results visits done clean later ih =>
      have entries := entries_of_done named (StepResult.eq_map_of_all_eq_ok done)
      have ids : results.map (·.step) = steps.map (·.id) := by
        simpa [Visit.entry, Function.comp_def] using (congrArg (List.map (·.1)) entries).symm
      rw [List.flatten_cons, List.map_append, ← List.append_assoc, ← ids] at fresh
      have gained := recorded_results (List.Nodup.of_append_left fresh)
      rw [ih (by simpa [gained, Fields.names, Function.comp_def] using fresh), gained, ← entries,
        List.map_append, List.append_assoc]

theorem Passes.inputs_eq (passes : Passes attempt ctx levels visits final) :
    final.inputs = ctx.inputs ∧ final.run = ctx.run := by
  induction passes with
  | nil => exact ⟨rfl, rfl⟩
  | cons done clean later ih => exact ih

theorem Passes.completes (passes : Passes attempt ctx levels visits final) {v : Visit}
    (member : v ∈ visits) : v.Completes attempt := by
  induction passes with
  | nil => cases member
  | @cons ctx final steps rest results visits done clean later ih =>
      rcases List.mem_append.mp member with here | further
      · obtain ⟨s, inside, rfl⟩ := List.mem_map.mp here
        have among : attempt ctx s ∈ results.map .ok := by
          rw [← StepResult.eq_map_of_all_eq_ok done]
          exact List.mem_map.mpr ⟨s, inside, rfl⟩
        obtain ⟨r, present, same⟩ := List.mem_map.mp among
        exact ⟨r, same.symm, firstFailure?_eq_none.mp clean r present⟩
      · exact ih further

end Levels

end Stepwise
