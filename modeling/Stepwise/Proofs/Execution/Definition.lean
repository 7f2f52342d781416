import Stepwise.Proofs.Admission.Sound
import Stepwise.Proofs.Execution.Cause
import Stepwise.Proofs.Execution.Group
import Stepwise.Proofs.Execution.Inputs
import Stepwise.Service.Basic

/-!
Runs of admitted workflows. What is checked before a workflow is kept is what a run asks of it: the
definition can be prepared, and no attempt at a step or at a sub-step fails because nothing executes it
or because its configuration does not fit. All errors of such runs are of steps that were attempted.
-/

namespace Stepwise

open Admission (Sound Thorough)

/-- A workflow that is stored is found under its id. -/
theorem Service.source_save (s : Service) (stored : Stored) :
    (s.save stored).2.source (s.save stored).1.id = .ok (some stored.definition) := by
  have stamped (supply : Supply) (existing? : Option Stored) :
      (stored.stamp supply existing?).1.definition = stored.definition := by
    cases existing? <;> rfl
  have found (m : Memory) (w : Stored) : (m.file w).get? w.id = some w := by
    have first : (m.file w).byId? w.id = some w := by
      rw [Memory.byId?, Memory.file, Memory.erase, List.find?_append, List.find?_eq_none.mpr]
      · simp
      · intro other member
        simpa using (List.mem_filter.mp member).2
    rw [Memory.get?, first, Option.some_or]
  rw [← stamped s.supply (s.repository.existing? stored)]
  exact congrArg (fun w => Except.ok (w.map Stored.definition)) (found s.repository _)

theorem executes_of_sound {w : World} {s : Step} (registered : ∀ kind, kind ∈ w.kinds)
    (sound : Sound s (Plan.ofStep s)) : w.executes s.kind = true := by
  rw [World.executes]
  cases named : StepKind.ofName? s.kind with
  | none =>
      refine absurd ?_ (sound.known s.kind)
      rw [Plan.ofStep]
      split
      · rfl
      · rename_i kind known
        rw [named] at known
        cases known
  | some kind => exact List.contains_iff_mem.mpr (registered kind)

namespace Engine

open Stepwise.Group (overlaid)
open Levels (failureText noting)

variable {w : World} {source : Source} {order : Order} {definition : Workflow} {g : DependencyGraph}

/-- In a run of a workflow that can be prepared every error is of an attempt, and has its cause there. -/
theorem exists_cause_of_error (prepared : prepare w source order.workflow = .ok (definition, g))
    {h history : History} {r : Run} (ran : (run w source h order).value = (.ok r, history))
    {error : RunError} (recorded : error ∈ r.errors) :
    ∃ v ∈ visits w source order, v.step ∈ definition.steps ∧ ∃ cause,
      (v.step.pursue w v.context).run.value = .error cause ∧ error.step = v.step.id ∧
      error.message = failureText cause.reported := by
  rw [← runAmid_nil] at ran
  cases ended : (outcome w source order).value with
  | error f =>
      rw [runAmid_of_error ended] at ran
      cases ran
  | ok update =>
      rw [runAmid_of_ok ended] at ran
      cases ran
      rw [outcome_value] at ended
      cases given : inputsOf order.inputs with
      | error f =>
          simp only [outcomeBy, prepared, given, pure] at ended
          cases ended
      | ok inputs =>
          rw [visits, outcomeBy_noting (attempts w) prepared given]
          rw [outcomeBy_noting (attempts w) prepared given] at ended
          rcases Levels.run_noting (attempts w) { inputs, run := order.id }
              (g.stepsByLevel definition) with
            ⟨made, final, -, all⟩ | ⟨pre, steps, post, before, ctx, ending, levels, -, stops, all⟩
          · rw [all] at ended
            cases ended
            cases recorded
          -- The error is of the first failure in the level that the run stopped at.
          · rw [all] at ended ⊢
            cases stops with
            | fault failed => cases ended
            | @failure results step message done first =>
                cases ended
                cases List.mem_singleton.mp recorded
                obtain ⟨r, member, found⟩ := List.exists_of_findSome?_eq_some first
                obtain ⟨text, failed, same⟩ := Option.map_eq_some_iff.mp found
                cases same
                have attempted : .ok r ∈ steps.map (attempts w ctx) := by
                  rw [StepResult.eq_map_of_all_eq_ok done]
                  exact List.mem_map.mpr ⟨r, member, rfl⟩
                obtain ⟨s, here, settled⟩ := List.mem_map.mp attempted
                obtain ⟨named, cause, ended, rfl⟩ := exists_cause_of_settle settled failed
                refine ⟨⟨ctx, s⟩, ?_, ?_, cause, ended, named, rfl⟩
                · exact List.mem_append_right before (List.mem_map.mpr ⟨s, here, rfl⟩)
                · have level : steps ∈ g.stepsByLevel definition :=
                    levels ▸ List.mem_append_right pre List.mem_cons_self
                  obtain ⟨k, -, rfl⟩ := List.mem_map.mp level
                  exact (List.mem_filter.mp here).1

/-- A run that does not end leaves the history as it was when the run was opened. -/
theorem store_of_error {h history : History} {f : Fault}
    (failed : (run w source h order).value = (.error f, history)) : history = h.store (opened order) := by
  rw [← runAmid_nil] at failed
  cases ended : (outcome w source order).value with
  | error e =>
      rw [runAmid_of_error ended] at failed
      cases failed
      rfl
  | ok update =>
      rw [runAmid_of_ok ended] at failed
      cases failed

/-- A workflow that is admitted and stored can be prepared for every run, and neither a step nor a
sub-step at any depth ever fails because nothing executes it or because its configuration does not fit,
whatever it is given. Every error of a run is of a step that was attempted, with another cause, and a run
that does not end records nothing. -/
theorem causes_of_admitted (definition : Workflow) (admitted : Admission.check definition = .ok ())
    (w : World) (registered : ∀ kind, kind ∈ w.kinds) :
    (∀ s ∈ definition.steps, ∀ ctx : Context,
      s.attempt w ctx = settle s.id (s.pursue w ctx) ∧ (s.pursue w ctx).Operational ∧
      ∀ t plan, (Plan.ofStep s).Nests t plan → ∀ held : Fields,
        Group.attemptAt w ctx held (t, plan) =
            (settle t.id (pursue w ctx (overlaid held t) fun own =>
              plan.execute w ctx (overlaid held t) own)).value ∧
          (pursue w ctx (overlaid held t) fun own =>
            plan.execute w ctx (overlaid held t) own).Operational) ∧
    (∀ (s : Service) (stored : Stored), stored.definition = definition →
      (s.save stored).2.source (s.save stored).1.id = .ok (some definition)) ∧
    ∀ (source : Source) (order : Order), source order.workflow = .ok (some definition) →
      (∃ g, prepare w source order.workflow = .ok (definition, g)) ∧
      (∀ (h history : History) (r : Run), (run w source h order).value = (.ok r, history) →
        ∀ error ∈ r.errors, ∃ v ∈ visits w source order, v.step ∈ definition.steps ∧ ∃ cause,
          (v.step.pursue w v.context).run.value = .error cause ∧ ¬cause.OfDefinition ∧
          error.step = v.step.id ∧ error.message = failureText cause.reported) ∧
      ∀ (h history : History) (f : Fault), (run w source h order).value = (.error f, history) →
        history = h.store (opened order) := by
  have thorough := (Admission.check_eq_ok_iff_thorough.mp admitted).2.2.2.1
  have above {s : Step} (sound : Sound s (Plan.ofStep s)) (ctx : Context) :
      (s.pursue w ctx).Operational :=
    operational_pursue (executes_of_sound registered sound)
      fun inputs => Plan.operational_execute sound.known sound.fits _ inputs
  have below {s : Step} (sound : Sound s (Plan.ofStep s)) (ctx : Context) (held : Fields) :
      (pursue w ctx (overlaid held s) fun own =>
        (Plan.ofStep s).execute w ctx (overlaid held s) own).Operational := by
    have runs : w.executes s.kind = true := executes_of_sound registered sound
    exact operational_pursue runs fun own => Plan.operational_execute sound.known sound.fits _ own
  refine ⟨?_, ?_, ?_⟩
  · intro s member ctx
    obtain ⟨sound, inner⟩ := thorough s member
    refine ⟨rfl, above sound ctx, ?_⟩
    intro t plan nested held
    obtain rfl := nested.eq_ofStep
    exact ⟨rfl, below (inner t _ nested) ctx held⟩
  · rintro s stored rfl
    exact s.source_save stored
  · intro source order stored
    obtain ⟨-, -, -, g, built, -⟩ := Admission.check_eq_ok_iff.mp admitted
    have prepared : prepare w source order.workflow = .ok (definition, g) :=
      prepare_eq_ok.mpr ⟨stored, built,
        fun s member => executes_of_sound registered (thorough s member).1⟩
    refine ⟨⟨g, prepared⟩, ?_, ?_⟩
    · intro h history r ran error recorded
      obtain ⟨v, made, member, cause, ended, named, message⟩ := exists_cause_of_error prepared ran recorded
      have other := above (thorough v.step member).1 v.context cause ended
      exact ⟨v, made, member, cause, ended, other, named, message⟩
    · intro h history f failed
      exact store_of_error failed

/-! ### A step that divides by zero -/

/-- The step that failed, and its message, if a walk through levels ended with a failure. -/
def failure? : Checked Ending → Option (String × String)
  | .ok (.failed step message) => some (step, message)
  | _ => none

theorem failure?_eq_some {x : Checked Ending} {step message : String}
    (found : failure? x = some (step, message)) : x = .ok (.failed step message) := by
  unfold failure? at found
  split at found
  · cases found
    rfl
  · cases found

/-- The run ends with the failure of a script, which its definition does not account for. -/
theorem causes_of_admitted_taking : ∃ r history,
    (run silent (only (taking "\x7b'x': 1 // 0\x7d")) single ordered).value = (.ok r, history) ∧
      ∃ error ∈ r.errors, error.step = "a" ∧
        ∃ v ∈ visits silent (only (taking "\x7b'x': 1 // 0\x7d")) ordered, ∃ cause,
          (v.step.pursue silent v.context).run.value = .error cause ∧ ¬cause.OfDefinition := by
  have admitted : Admission.check (taking "\x7b'x': 1 // 0\x7d") = .ok () :=
    check_taking (by decide +kernel) (by decide +kernel)
  have registered : ∀ kind, kind ∈ silent.kinds := by
    intro kind
    cases kind <;> decide
  obtain ⟨-, -, runs⟩ := causes_of_admitted _ admitted silent registered
  obtain ⟨⟨g, prepared⟩, errors, -⟩ := runs (only (taking "\x7b'x': 1 // 0\x7d")) ordered rfl
  obtain ⟨-, built, -⟩ := prepare_eq_ok.mp prepared
  rw [ofWorkflow_taking] at built
  cases built
  have fails : ((failure? (Levels.run (noting (attempts silent)) { inputs := [], run := "run" }
      (takingGraph.stepsByLevel (taking "\x7b'x': 1 // 0\x7d"))).value).any (·.1 == "a")) = true := by
    decide +kernel
  have ended : (outcome silent (only (taking "\x7b'x': 1 // 0\x7d")) ordered).value =
      (Levels.run (noting (attempts silent)) { inputs := [], run := "run" }
        (takingGraph.stepsByLevel (taking "\x7b'x': 1 // 0\x7d"))).value.map (closing ordered.ended) := by
    rw [outcome_value, outcomeBy_noting (attempts silent) prepared rfl]
    rfl
  obtain ⟨⟨step, message⟩, failed, same⟩ := (Option.any_eq_true _ _).mp fails
  rw [failure?_eq_some failed] at ended
  have ran := runAmid_nil silent (only (taking "\x7b'x': 1 // 0\x7d")) single ordered
  rw [runAmid_of_ok ended] at ran
  obtain ⟨v, made, -, cause, found, other, -⟩ :=
    errors _ _ _ ran.symm ⟨step, message, ordered.ended, none⟩ List.mem_cons_self
  exact ⟨_, _, ran.symm, _, List.mem_cons_self, eq_of_beq same, v, made, cause, found, other⟩

end Engine

end Stepwise
