import Stepwise.Proofs.Admission
import Stepwise.Proofs.Execution.Closing
import Stepwise.Proofs.Value.Plain

/-!
The inputs of the steps of admitted workflows: they depend on nothing but the inputs of the run and
the outputs of the steps that a step depends on, and an attempt sees them as they are when the run is
complete.
-/

namespace Stepwise.Engine

open Levels (Orderly Passes noting)
open Relation (TransGen)

variable {w : World} {source : Source} {h : History} {order : Order} {definition : Workflow}

/-! ### Runs that complete -/

/-- A run that completes has passed all levels, and keeps the outputs that it has come to. -/
theorem passes_of_completed {r : Run} {history : History}
    (stored : source order.workflow = .ok (some definition))
    (ran : (run w source h order).value = (.ok r, history)) (completed : r.status = .completed) :
    ∃ g inputs final, DependencyGraph.ofWorkflow definition = .ok g ∧
      inputsOf order.inputs = .ok inputs ∧
      Passes (attempts w) { inputs, run := order.id } (g.stepsByLevel definition)
        (visits w source order) final ∧
      r.results = final.results := by
  rw [← runAmid_nil] at ran
  cases ended : (outcome w source order).value with
  | error f =>
      rw [runAmid_of_error ended] at ran
      cases ran
  | ok update =>
      rw [runAmid_of_ok ended] at ran
      cases ran
      rw [outcome_value] at ended
      cases prepared : prepare w source order.workflow with
      | error e =>
          simp only [outcomeBy, prepared, pure] at ended
          cases ended
          cases completed
      | ok pair =>
          obtain ⟨stored', g⟩ := pair
          obtain ⟨same, built, -⟩ := prepare_eq_ok.mp prepared
          rw [stored] at same
          cases same
          cases given : inputsOf order.inputs with
          | error f =>
              simp only [outcomeBy, prepared, given, pure] at ended
              cases ended
          | ok inputs =>
              rw [visits, outcomeBy_noting (attempts w) prepared given]
              rw [outcomeBy_noting (attempts w) prepared given] at ended
              rcases Levels.run_noting (attempts w) { inputs, run := order.id }
                  (g.stepsByLevel definition) with
                ⟨made, final, passes, all⟩ | ⟨_, steps, _, _, ctx, ending, -, -, stops, all⟩
              · rw [all] at ended ⊢
                cases ended
                exact ⟨g, inputs, final, built, rfl, passes, rfl⟩
              · rw [all] at ended
                cases stops with
                | fault failed => cases ended
                | failure done first =>
                    cases ended
                    cases completed

/-- An attempt has seen of what its step depends on what is there when all levels are passed. -/
theorem agree_of_passes {g : DependencyGraph} {start final : Context} {made : List Visit}
    (built : DependencyGraph.ofWorkflow definition = .ok g) (distinct : definition.Distinct)
    (empty : start.results = [])
    (passes : Passes (attempts w) start (g.stepsByLevel definition) made final) {v : Visit}
    (inside : v ∈ made) : v.context.Agree (TransGen definition.DependsOn v.step.id) final := by
  have orderly := passes.goes.orderly built distinct (named_attempts w) empty
  have gained := passes.results_of_empty built distinct (named_attempts w) empty
  constructor
  · rw [orderly.context v inside, gained]
  · intro d path
    obtain ⟨u, earlier, rfl, -, -, found⟩ := orderly.get?_of_transGen built distinct inside path
    rw [found, gained]
    symm
    apply Fields.get?_of_mem
    · rw [Fields.names, List.map_map]
      exact orderly.once
    · exact List.mem_map.mpr ⟨u, earlier, rfl⟩

/-- An attempt that completes is what its step does with its inputs. -/
theorem resolved_of_completes {v : Visit} (completes : v.Completes (attempts w)) :
    ∃ inputs, Fields.resolve v.context v.step.inputs = .ok inputs ∧
      v.step.attempt w v.context =
        settle v.step.id ((Plan.ofStep v.step).execute w v.context v.step inputs) := by
  obtain ⟨r, recorded, clean⟩ := completes
  by_cases registered : w.executes v.step.kind = true
  · cases resolved : Fields.resolve v.context v.step.inputs with
    | ok inputs => exact ⟨inputs, rfl, attempt_of_resolved registered resolved⟩
    | error e =>
        rw [attempts, Step.attempt, attempt_of_unresolved registered resolved] at recorded
        cases recorded
        cases clean
  · rw [attempts, Step.attempt, attempt_of_unregistered (Bool.eq_false_iff.mpr registered)] at recorded
    cases recorded
    cases clean

/-! ### Inputs -/

/-- A script step, and a second one that takes the output of the first into a template. -/
def taking (script : String) : Workflow :=
  { id := "alone"
    name := "Taking"
    steps := [
      { id := "a"
        kind := StepKind.script.name
        config := [("script", .text script)] },
      { id := "b"
        kind := StepKind.script.name
        inputs := [("t", .text "\x7b\x7bsteps.a.x\x7d\x7d")]
        config := [("script", .text "\x7b'y': 1\x7d")]
        dependencies := ["a"] }] }

/-- The graph of such a workflow. -/
def takingGraph : DependencyGraph :=
  ⟨["a", "b"], [("a", []), ("b", ["a"])], [("a", 0), ("b", 1)]⟩

theorem ofWorkflow_taking (script : String) :
    DependencyGraph.ofWorkflow (taking script) = .ok takingGraph := by
  have walked : Graph.walk ["a", "b"] (DependencyGraph.dependenciesIn takingGraph.edges) =
      .ok ["a", "b"] := by
    simp [Graph.walk, Graph.walkFrom, takingGraph, DependencyGraph.dependenciesIn]
  exact DependencyGraph.ofWorkflow_eq_ok.mpr ⟨rfl, _, walked, rfl⟩

theorem ancestors_taking : takingGraph.ancestors = .ok [("a", []), ("b", ["a"])] := by
  rw [DependencyGraph.ancestors, DependencyGraph.byLevel_of_rising rfl (by decide) (by decide)]
  rfl

theorem check_taking {script : String}
    (steps : Admission.checkSteps [] (taking script).steps = .ok ())
    (references : Admission.checkReferences [("a", []), ("b", ["a"])] (taking script).steps = .ok ()) :
    Admission.check (taking script) = .ok () :=
  Admission.check_eq_ok_iff.mpr ⟨List.cons_ne_nil _ _, Nat.le_of_ble_eq_true rfl, steps, takingGraph,
    ofWorkflow_taking script, _, ancestors_taking, references⟩

theorem run_taking_completes : ∃ r history,
    (run silent (only (taking "\x7b'x': 1\x7d")) single ordered).value = (.ok r, history) ∧
      r.status = .completed := by
  have prepared : prepare silent (only (taking "\x7b'x': 1\x7d")) "alone" =
      .ok (taking "\x7b'x': 1\x7d", takingGraph) :=
    prepare_eq_ok.mpr ⟨rfl, ofWorkflow_taking _, by decide⟩
  have completes : (match (Levels.run (noting (attempts silent)) { inputs := [], run := "run" }
        (takingGraph.stepsByLevel (taking "\x7b'x': 1\x7d"))).value with
      | .ok (.completed _) => true
      | _ => false) = true := by
    decide +kernel
  have ended : (outcome silent (only (taking "\x7b'x': 1\x7d")) ordered).value =
      (Levels.run (noting (attempts silent)) { inputs := [], run := "run" }
        (takingGraph.stepsByLevel (taking "\x7b'x': 1\x7d"))).value.map (closing ordered.ended) := by
    rw [outcome_value, outcomeBy_noting (attempts silent) prepared rfl]
    rfl
  split at completes
  · rename_i results done
    rw [done] at ended
    rw [← runAmid_nil, runAmid_of_ok ended]
    exact ⟨_, _, rfl, rfl⟩
  · cases completes

/-- The second step depends on nothing but the first. -/
theorem eq_of_transGen_taking {script d : String} (distinct : (taking script).Distinct)
    (path : TransGen (taking script).DependsOn "b" d) : d = "a" := by
  have listed := (DependencyGraph.mem_ancestors (ofWorkflow_taking script) distinct ancestors_taking
    (List.mem_cons_of_mem _ List.mem_cons_self)).mpr path
  exact List.mem_singleton.mp listed

end Stepwise.Engine
