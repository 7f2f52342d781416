import Stepwise.Execution.Engine
import Stepwise.Proofs.Execution.Levels

/-!
Runs of workflows whose steps have assigned outcomes: which steps are attempted, in which order and in
which context, and what is recorded of the run.
-/

namespace Stepwise

open Relation (TransGen)

/-! ### Runs of prepared workflows -/

namespace Engine

open Levels (Attempts Runner noting)

variable {w : World} {source : Source} {definition : Workflow} {graph : DependencyGraph}
  {order : Order} {inputs : Entries}

theorem unexecutable?_eq_none :
    unexecutable? w definition = none ↔ ∀ s ∈ definition.steps, w.executes s.kind = true := by
  simp only [unexecutable?, List.find?_eq_none, Bool.not_eq_true', Bool.not_eq_false]

theorem prepare_eq_ok {id : String} :
    prepare w source id = .ok (definition, graph) ↔
      source id = .ok (some definition) ∧ DependencyGraph.ofWorkflow definition = .ok graph ∧
        ∀ s ∈ definition.steps, w.executes s.kind = true := by
  constructor
  · intro prepared
    cases found : source id with
    | error e =>
        simp only [prepare, found] at prepared
        cases prepared
    | ok stored? =>
        cases stored? with
        | none =>
            simp only [prepare, found] at prepared
            cases prepared
        | some stored =>
            cases built : DependencyGraph.ofWorkflow stored with
            | error e =>
                simp only [prepare, found, pure_bind, built] at prepared
                cases prepared
            | ok g =>
                cases missing : unexecutable? w stored with
                | some s =>
                    simp only [prepare, found, pure_bind, built, missing] at prepared
                    cases prepared
                | none =>
                    simp only [prepare, found, pure_bind, built, missing] at prepared
                    cases prepared
                    exact ⟨rfl, built, unexecutable?_eq_none.mp missing⟩
  · rintro ⟨stored, built, registered⟩
    simp only [prepare, stored, pure_bind, built, unexecutable?_eq_none.mpr registered]
    rfl

theorem outcomeBy_noting (attempt : Attempts)
    (prepared : prepare w source order.workflow = .ok (definition, graph))
    (given : inputsOf order.inputs = .ok inputs) :
    outcomeBy (noting attempt) w source order =
      ⟨(Levels.run (noting attempt) { inputs, run := order.id }
          (graph.stepsByLevel definition)).value.map (closing order.ended),
        (Levels.run (noting attempt) { inputs, run := order.id }
          (graph.stepsByLevel definition)).visits⟩ := by
  simp only [outcomeBy, prepared, given, levels, bind, pure, List.append_nil]

theorem runBy_noting_of_ok {attempt : Attempts} {h : History} {update : RunUpdate}
    {visits : List Visit}
    (outcome : outcomeBy (noting attempt) w source order = ⟨.ok update, visits⟩) :
    runBy (noting attempt) w source h order =
      ⟨(.ok ((opened order).update update), (h.store (opened order)).update order.id update),
        visits⟩ := by
  simp only [runBy, outcome, bind, pure, List.append_nil]

end Engine

/-! ### Assigned outcomes -/

namespace Levels

variable {assign : Context → Step → Outcome} {ctx : Context} {steps : List Step}

/-- Attempts with assigned outcomes. -/
def assigned (assign : Context → Step → Outcome) : Attempts :=
  fun ctx s => .ok ⟨s.id, assign ctx s⟩

theorem named_assigned : Named (assigned assign) := by
  intro ctx s r done
  cases done
  rfl

theorem all_assigned :
    StepResult.all (steps.map (assigned assign ctx)) =
      .ok (steps.map fun s => ⟨s.id, assign ctx s⟩) := by
  rw [← StepResult.all_map_ok, List.map_map]
  rfl

theorem failure?_eq_none {id : String} {outcome : Outcome} :
    StepResult.failure? ⟨id, outcome⟩ = none ↔ ∃ outputs, outcome = .completed outputs := by
  cases outcome <;> simp [StepResult.failure?]

theorem failure?_eq_some {id message : String} {outcome : Outcome} :
    StepResult.failure? ⟨id, outcome⟩ = some message ↔ outcome = .failed message := by
  cases outcome <;> simp [StepResult.failure?]

theorem completes_assigned {v : Visit} :
    v.Completes (assigned assign) ↔ ∃ outputs, assign v.context v.step = .completed outputs := by
  simp only [Visit.Completes, assigned, Except.ok.injEq, exists_eq_left', failure?_eq_none]

theorem entry_assigned {v : Visit} {outputs : Fields}
    (completed : assign v.context v.step = .completed outputs) :
    v.entry (assigned assign) = (v.step.id, .ofFields outputs) := by
  simp only [Visit.entry, assigned, StepResult.outputs, completed]

/-- The first failure of a level is that of its first step that fails. -/
theorem firstFailure?_assigned {id text : String}
    (first : firstFailure? (steps.map fun s => ⟨s.id, assign ctx s⟩) = some (id, text)) :
    ∃ pre s post message, steps = pre ++ s :: post ∧
      (∀ t ∈ pre, ∃ outputs, assign ctx t = .completed outputs) ∧
      assign ctx s = .failed message ∧ id = s.id ∧ text = failureText message := by
  rw [firstFailure?, List.findSome?_map, List.findSome?_eq_some_iff] at first
  obtain ⟨pre, s, post, rfl, here, clean⟩ := first
  obtain ⟨message, failed, same⟩ := Option.map_eq_some_iff.mp here
  cases same
  refine ⟨pre, s, post, message, rfl, ?_, failure?_eq_some.mp failed, rfl, rfl⟩
  intro t before
  exact failure?_eq_none.mp (Option.map_eq_none_iff.mp (clean t before))

end Levels

/-! ### Runs with assigned outcomes -/

namespace Engine

open Levels (Orderly assigned noting)

/-- A run that has attempted all steps, each once, and has kept the outputs of each. -/
structure Completed (w : Workflow) (assign : Context → Step → Outcome) (order : Order)
    (visits : List Visit) (r : Run) : Prop where
  attempted : (visits.map (·.step)).Perm w.steps
  status : r.status = .completed
  ended : r.ended? = some order.ended
  errors : r.errors = []
  names : (Fields.names r.results).Perm (w.steps.map (·.id))
  outputs : ∀ v ∈ visits, ∀ outputs, assign v.context v.step = .completed outputs →
    Fields.get? r.results v.step.id = some (.ofFields outputs)

/-- A run that has ended with the failure of an attempt. The attempt is the first, as the workflow
declares its steps, of those that fail on the lowest level with a failure; the steps up to that level
have been attempted once, and none of the outputs of the level are known or kept. -/
structure FailedAt (g : DependencyGraph) (w : Workflow) (assign : Context → Step → Outcome)
    (order : Order) (visits : List Visit) (r : Run) (v : Visit) (message : String) : Prop where
  made : v ∈ visits
  failed : assign v.context v.step = .failed message
  lowest : ∀ u ∈ visits, g.rank u.step < g.rank v.step →
    ∃ outputs, assign u.context u.step = .completed outputs
  first : ∃ pre post, w.steps = pre ++ v.step :: post ∧ ∀ s ∈ pre, g.rank s = g.rank v.step →
    ∃ outputs, assign v.context s = .completed outputs
  attempted : (visits.map (·.step)).Perm (w.steps.filter fun s => g.rank s ≤ g.rank v.step)
  status : r.status = .failed
  ended : r.ended? = some order.ended
  results : r.results = []
  errors : r.errors =
    [{ step := v.step.id, message := Levels.failureText message, time := order.ended }]
  unseen : ∀ u ∈ visits, ∀ s ∈ w.steps, g.rank s = g.rank v.step →
    Fields.get? u.context.results s.id = none

section Endings

variable {definition : Workflow} {g : DependencyGraph} {assign : Context → Step → Outcome}
  {start : Context} (order : Order)
  (built : DependencyGraph.ofWorkflow definition = .ok g) (distinct : definition.Distinct)
include built distinct

theorem completed_of_passes {visits : List Visit} {final : Context} (empty : start.results = [])
    (passes : Levels.Passes (assigned assign) start (g.stepsByLevel definition) visits final) :
    Completed definition assign order visits
      ((opened order).update (closing order.ended (.completed final.results))) := by
  have attempted : (visits.map (·.step)).Perm definition.steps := by
    rw [passes.goes.map_step]
    exact DependencyGraph.flatten_stepsByLevel_perm built
  have gained : final.results = visits.map (Visit.entry (assigned assign)) := by
    rw [passes.results_of_empty built distinct Levels.named_assigned empty]
  have names : Fields.names final.results = (visits.map (·.step)).map (·.id) := by
    rw [gained, Fields.names, List.map_map, List.map_map]
    rfl
  have ids : (Fields.names final.results).Perm (definition.steps.map (·.id)) := by
    rw [names]
    exact attempted.map _
  refine ⟨attempted, rfl, rfl, rfl, ids, ?_⟩
  intro v inside outputs completed
  apply Fields.get?_of_mem
  · exact ids.nodup_iff.mpr distinct
  · show (v.step.id, Value.ofFields outputs) ∈ final.results
    rw [gained, ← Levels.entry_assigned completed]
    exact List.mem_map.mpr ⟨v, inside, rfl⟩

theorem failedAt_of_stops {k : Nat} {before : List Visit} {ctx : Context} {step text : String}
    (passes : Levels.Passes (assigned assign) start
      ((List.range k).map (g.stepsAt definition)) before ctx)
    (first : Levels.firstFailure?
      ((g.stepsAt definition k).map fun s => ⟨s.id, assign ctx s⟩) = some (step, text))
    (orderly : Orderly g definition start (assigned assign)
      (before ++ (g.stepsAt definition k).map (Visit.mk ctx))) :
    ∃ v message, FailedAt g definition assign order
      (before ++ (g.stepsAt definition k).map (Visit.mk ctx))
      ((opened order).update (closing order.ended (.failed step text))) v message := by
  obtain ⟨pre, s, post, message, level, clean, failed, rfl, rfl⟩ :=
    Levels.firstFailure?_assigned first
  have here : s ∈ g.stepsAt definition k := by
    rw [level]
    exact List.mem_append_right pre List.mem_cons_self
  obtain ⟨member, rfl⟩ := (DependencyGraph.mem_stepsAt built).mp here
  have attempted := passes.map_step_perm built
  have bounded (u : Visit)
      (inside : u ∈ before ++ (g.stepsAt definition (g.rank s)).map (Visit.mk ctx)) :
      g.rank u.step ≤ g.rank s := by
    have among := attempted.subset (List.mem_map.mpr ⟨u, inside, rfl⟩)
    exact of_decide_eq_true (List.mem_filter.mp among).2
  refine ⟨⟨ctx, s⟩, message, ?_⟩
  refine
    { made := List.mem_append_right before (List.mem_map.mpr ⟨s, here, rfl⟩)
      failed := failed
      lowest := ?_
      first := ?_
      attempted := attempted
      status := rfl
      ended := rfl
      results := rfl
      errors := rfl
      unseen := ?_ }
  · intro u inside lower
    rcases List.mem_append.mp inside with earlier | same
    · exact Levels.completes_assigned.mp (passes.completes earlier)
    · obtain ⟨t, atLevel, rfl⟩ := List.mem_map.mp same
      have equal := ((DependencyGraph.mem_stepsAt built).mp atLevel).2
      exact absurd lower (by simp [equal])
  · obtain ⟨left, right, declared, earlier⟩ := DependencyGraph.steps_of_stepsAt built level
    exact ⟨left, right, declared, fun t member sameLevel => clean t (earlier t member sameLevel)⟩
  · intro u inside t declared sameLevel
    exact orderly.get?_context_eq_none distinct inside declared (sameLevel ▸ bounded u inside)

end Endings

/-- A run goes up the levels of its workflow whatever the outcomes of the attempts are. Every attempt
sees the outputs of exactly the steps of lower levels, among them all that its step depends on. The run
completes with the outputs of all steps if no attempt fails, and otherwise ends with the lowest level on
which one does. -/
theorem runBy_assigned (assign : Context → Step → Outcome) (w : World) (source : Source)
    (h : History) (order : Order) (definition : Workflow) (inputs : Entries)
    (stored : source order.workflow = .ok (some definition)) (distinct : definition.Distinct)
    (sound : ¬∃ s d, definition.Dangles s d)
    (acyclic : ¬∃ id, TransGen definition.DependsOn id id)
    (registered : ∀ s ∈ definition.steps, w.executes s.kind = true)
    (given : inputsOf order.inputs = .ok inputs) :
    ∃ g, DependencyGraph.ofWorkflow definition = .ok g ∧ ∃ r history visits,
      runBy (noting (assigned assign)) w source h order = ⟨(.ok r, history), visits⟩ ∧
      Orderly g definition { inputs, run := order.id } (assigned assign) visits ∧
      (∀ v ∈ visits, ∀ d, TransGen definition.DependsOn v.step.id d →
        ∃ u ∈ visits, u.step.id = d ∧ ∃ outputs, assign u.context u.step = .completed outputs ∧
          Fields.get? v.context.results d = some (.ofFields outputs)) ∧
      ((∀ v ∈ visits, ∃ outputs, assign v.context v.step = .completed outputs) →
        Completed definition assign order visits r) ∧
      ((∃ v ∈ visits, ∃ message, assign v.context v.step = .failed message) →
        ∃ v message, FailedAt g definition assign order visits r v message) := by
  obtain ⟨g, built⟩ := DependencyGraph.exists_built distinct sound acyclic
  have prepared := prepare_eq_ok.mpr ⟨stored, built, registered⟩
  have outcome := outcomeBy_noting (assigned assign) prepared given
  have lookups {visits : List Visit}
      (orderly : Orderly g definition { inputs, run := order.id } (assigned assign) visits)
      (v : Visit) (inside : v ∈ visits) (d : String)
      (path : TransGen definition.DependsOn v.step.id d) :
      ∃ u ∈ visits, u.step.id = d ∧ ∃ outputs, assign u.context u.step = .completed outputs ∧
        Fields.get? v.context.results d = some (.ofFields outputs) := by
    obtain ⟨u, earlier, same, -, completes, found⟩ :=
      orderly.get?_of_transGen built distinct inside path
    obtain ⟨outputs, completed⟩ := Levels.completes_assigned.mp completes
    rw [Levels.entry_assigned completed] at found
    exact ⟨u, earlier, same, outputs, completed, found⟩
  refine ⟨g, built, ?_⟩
  rcases Levels.run_noting (assigned assign) { inputs, run := order.id }
      (g.stepsByLevel definition) with
    ⟨visits, final, passes, ran⟩ | ⟨pre, steps, post, before, ctx, ending, levels, passes, stops, ran⟩
  · have orderly := passes.goes.orderly built distinct Levels.named_assigned rfl
    rw [ran] at outcome
    refine ⟨_, _, visits, runBy_noting_of_ok outcome, orderly, lookups orderly, ?_, ?_⟩
    · intro _
      exact completed_of_passes order built distinct rfl passes
    · rintro ⟨v, inside, message, failed⟩
      obtain ⟨outputs, completed⟩ := Levels.completes_assigned.mp (passes.completes inside)
      rw [failed] at completed
      cases completed
  · obtain ⟨k, -, rfl, rfl, -⟩ := range_map_eq_append levels
    have goes := passes.goes_snoc (g.stepsAt definition k)
    -- The level that the run stops in is begun: its attempts count among those that go up.
    have begun : (List.range k).map (g.stepsAt definition) ++ [g.stepsAt definition k] =
        (List.range (k + 1)).map (g.stepsAt definition) := by
      rw [List.range_succ, List.map_append, List.map_singleton]
    rw [begun] at goes
    have orderly := goes.orderly built distinct Levels.named_assigned rfl
    rw [ran] at outcome
    cases stops with
    | fault broken =>
        rw [Levels.all_assigned] at broken
        cases broken
    | failure done first =>
        rw [Levels.all_assigned] at done
        cases done
        obtain ⟨v, message, failedAt⟩ := failedAt_of_stops order built distinct passes first orderly
        refine ⟨_, _, _, runBy_noting_of_ok outcome, orderly, lookups orderly, ?_, ?_⟩
        · intro completed
          obtain ⟨outputs, same⟩ := completed v failedAt.made
          rw [failedAt.failed] at same
          cases same
        · intro _
          exact ⟨v, message, failedAt⟩

/-- A world that answers no request. -/
def silent : World :=
  { fetch := fun _ => .failure "ConnectError" "no answer"
    complete? := none
    prompt? := none
    timeout := .zero
    today := default }

/-- An order that gives no inputs. -/
def bare : Order :=
  { id := "run", workflow := "two-steps", started := default, ended := default }

/-- A history with room for one run. -/
def single : History := { capacity := 1, capacity_pos := Nat.one_pos, length_le := by simp }

theorem runBy_assigned_twoSteps :
    ∃ r history visits,
      runBy (noting (assigned fun _ s => .completed [("name", .text s.id)])) silent
          (fun _ => .ok (some (DependencyGraph.twoSteps [] ["a"]))) single bare =
        ⟨(.ok r, history), visits⟩ ∧
      r.status = .completed ∧ (Fields.names r.results).Perm ["a", "b"] := by
  have registered : ∀ s ∈ (DependencyGraph.twoSteps [] ["a"]).steps,
      silent.executes s.kind = true := by
    decide
  obtain ⟨g, -, r, history, visits, ran, -, -, completed, -⟩ :=
    runBy_assigned (fun _ s => .completed [("name", .text s.id)]) silent
      (fun _ => .ok (some (DependencyGraph.twoSteps [] ["a"]))) single bare
      (DependencyGraph.twoSteps [] ["a"]) [] rfl (DependencyGraph.distinct_twoSteps [] ["a"])
      (DependencyGraph.sound_twoSteps (by decide)) DependencyGraph.acyclic_twoSteps registered rfl
  have done := completed (fun v _ => ⟨_, rfl⟩)
  exact ⟨r, history, visits, ran, done.status, done.names⟩

end Engine

end Stepwise
