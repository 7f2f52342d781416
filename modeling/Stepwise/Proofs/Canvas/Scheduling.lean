import Stepwise.Proofs.Canvas.Admission
import Stepwise.Proofs.Execution.Definition

/-!
Scheduling of what was compiled. The compiler looks for cycles along the connections of the nodes, and
the engine along the dependencies of the steps; as these are the connections turned round, the engine
finds an order wherever the compiler has found one, and every compiled workflow can be run.
-/

namespace Stepwise

open Relation (TransGen)

namespace Wiring

/-- No node becomes a group. -/
theorem configOf_ne_group (node : Node) (e : Option Endpoint) (output : String) (slots : List String) :
    (configOf node e output slots).1 ≠ .group := by
  unfold configOf
  split
  · exact StepKind.noConfusion
  · split
    · exact StepKind.noConfusion
    · exact StepKind.noConfusion
    · split
      · exact StepKind.noConfusion
      · exact StepKind.noConfusion

end Wiring

namespace Canvas

open Engine (Source prepare run visits opened)

variable {nodes order : List Node} {n : Node} {name : String} {description : Option String}
  {strict : Bool} {w : Workflow} {g : DependencyGraph} {world : World}

/-! ### The kinds of compiled steps -/

theorem exists_kind_stepIn (nodes : List Node) (n : Node) :
    ∃ kind, kind ≠ .group ∧ (stepIn nodes n).kind = StepKind.name kind :=
  ⟨_, Wiring.configOf_ne_group _ _ _ _, rfl⟩

theorem executes_stepIn (registered : ∀ kind, kind ≠ .group → kind ∈ world.kinds) :
    world.executes (stepIn nodes n).kind = true := by
  obtain ⟨kind, plain, named⟩ := exists_kind_stepIn nodes n
  rw [World.executes, named, StepKind.ofName?_name]
  exact List.contains_iff_mem.mpr (registered kind plain)

/-! ### The levels of compiled steps -/

theorem exists_graph (sound : WellFormed nodes) (perm : order.Perm nodes) :
    ∃ g, DependencyGraph.ofWorkflow (workflowOf nodes order name description) = .ok g :=
  DependencyGraph.exists_built (distinct_workflowOf sound perm) (not_dangles_workflowOf perm)
    (acyclic_workflowOf sound perm)

/-- A node is on a higher level than every node that leads to it. -/
theorem level?_lt_of_connects (sound : WellFormed nodes) (perm : order.Perm nodes)
    (built : DependencyGraph.ofWorkflow (workflowOf nodes order name description) = .ok g)
    {a b : String} (leads : TransGen (Connects nodes) a b) :
    ∃ low high, g.level? a = some low ∧ g.level? b = some high ∧ low < high := by
  obtain ⟨-, -, -, levels⟩ := DependencyGraph.exists_lower_of_transGen built
    (distinct_workflowOf sound perm) ((transGen_dependsOn_workflowOf sound perm).mpr leads)
  exact levels

/-! ### Runs of what was compiled -/

/-- Whatever is compiled can be scheduled. It has a graph, in which each step is on one level, which is
above those of the steps of all nodes that lead to its node; and each step is of a kind that is executed,
and is no group. Once the workflow is stored, every run of it gets to its steps: each error of a run is of
a step that was attempted and failed, and stands under the id of its node, even where this is the name that
errors of whole workflows go by; and a run that does not end records nothing. -/
theorem scheduled_of_compiled (compiled : (compile strict nodes name description).result = .ok w) :
    ∃ g, DependencyGraph.ofWorkflow w = .ok g ∧
      (∀ s ∈ w.steps, ∃! level, s ∈ g.stepsAt w level) ∧
      (g.stepsByLevel w).flatten.Perm w.steps ∧
      (∀ a b, TransGen (Connects nodes) a b →
        ∃ low high, g.level? a = some low ∧ g.level? b = some high ∧ low < high) ∧
      (∀ s ∈ w.steps, ∃ kind, kind ≠ .group ∧ s.kind = StepKind.name kind) ∧
      (∀ (s : Service) (stored : Stored), stored.definition = w →
        (s.save stored).2.source (s.save stored).1.id = .ok (some w)) ∧
      ∀ world : World, (∀ kind, kind ≠ .group → kind ∈ world.kinds) →
        (∀ s ∈ w.steps, world.executes s.kind = true) ∧
        ∀ (source : Source) (order : Order), source order.workflow = .ok (some w) →
          prepare world source order.workflow = .ok (w, g) ∧
          (∀ (h history : History) (r : Run), (run world source h order).value = (.ok r, history) →
            ∀ error ∈ r.errors, ∃ n ∈ nodes, error.step = n.id ∧
              ∃ v ∈ visits world source order, v.step = stepIn nodes n ∧ ∃ cause,
                (v.step.pursue world v.context).run.value = .error cause ∧
                error.message = Levels.failureText cause.reported) ∧
          ∀ (h history : History) (f : Fault),
            (run world source h order).value = (.error f, history) →
              history = h.store (opened order) := by
  have sound := wellFormed_of_result compiled
  obtain ⟨order, perm, rfl⟩ := exists_order_of_result compiled
  obtain ⟨g, built⟩ := @exists_graph nodes order name description sound perm
  refine ⟨g, built, fun s => DependencyGraph.existsUnique_stepsAt built,
    DependencyGraph.flatten_stepsByLevel_perm built, ?_, ?_, ?_, ?_⟩
  · intro a b leads
    exact level?_lt_of_connects sound perm built leads
  · intro s member
    obtain ⟨n, -, rfl⟩ := (mem_workflowOf perm).mp member
    exact exists_kind_stepIn nodes n
  · rintro s stored same
    rw [← same]
    exact s.source_save stored
  · intro world registered
    have executes : ∀ s ∈ (workflowOf nodes order name description).steps,
        world.executes s.kind = true := by
      intro s member
      obtain ⟨n, -, rfl⟩ := (mem_workflowOf perm).mp member
      exact executes_stepIn registered
    refine ⟨executes, ?_⟩
    intro source order stored
    have prepared := Engine.prepare_eq_ok.mpr ⟨stored, built, executes⟩
    refine ⟨prepared, ?_, fun _ _ _ => Engine.store_of_error⟩
    intro h history r ran error recorded
    obtain ⟨v, made, member, cause, ended, named, message⟩ :=
      Engine.exists_cause_of_error prepared ran recorded
    obtain ⟨n, drawn, same⟩ := (mem_workflowOf perm).mp member
    exact ⟨n, drawn, named.trans (congrArg Step.id same.symm), v, made, same.symm, cause, ended, message⟩

theorem scheduled_of_compiled_pair : ∃ w g, (compile false pair "Pair" none).result = .ok w ∧
    prepare Engine.silent (fun _ => .ok (some w)) "pair" = .ok (w, g) ∧
    ∃ low high, g.level? "a" = some low ∧ g.level? "b" = some high ∧ low < high := by
  obtain ⟨order, -, -, -, results⟩ := @exists_result pair "Pair" none wellFormed_pair
  obtain ⟨g, -, -, -, levels, -, -, runs⟩ := scheduled_of_compiled (results false)
  have registered : ∀ kind, kind ≠ .group → kind ∈ Engine.silent.kinds := by
    intro kind _
    cases kind <;> decide
  obtain ⟨-, runs⟩ := runs Engine.silent registered
  obtain ⟨prepared, -, -⟩ := runs (fun _ => .ok (some (workflowOf pair order "Pair" none)))
    { Engine.bare with workflow := "pair" } rfl
  refine ⟨_, g, results false, prepared, levels "a" "b" (.single ?_)⟩
  exact ⟨_, List.mem_cons_self, rfl, List.mem_cons_self⟩

end Canvas

end Stepwise
