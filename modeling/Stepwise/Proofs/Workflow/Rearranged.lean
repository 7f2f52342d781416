import Stepwise.Proofs.Execution.Levels

/-!
Workflows that declare the same steps in different orders. They depend alike, so the graph of one can
be built if that of the other can, and every step has the same level in both.
-/

namespace Stepwise

open Relation (TransGen)

/-- Errors that say the same of two workflows, perhaps of other steps. -/
inductive DefinitionError.SameKind : DefinitionError → DefinitionError → Prop where
  | unknownWorkflow (one other : String) : SameKind (.unknownWorkflow one) (.unknownWorkflow other)
  | cycle (one other : String) : SameKind (.cycle one) (.cycle other)
  | dangling (one other d e : String) : SameKind (.dangling one d) (.dangling other e)
  | noExecutor (one other : String) : SameKind (.noExecutor one) (.noExecutor other)

namespace Workflow

variable {w v : Workflow} (perm : w.steps.Perm v.steps)
include perm

theorem Distinct.rearranged (distinct : w.Distinct) : v.Distinct :=
  (perm.map Step.id).nodup_iff.mp distinct

theorem dependsOn_rearranged : v.DependsOn = w.DependsOn := by
  funext a b
  simp only [DependsOn, perm.mem_iff]

theorem dangles_rearranged : v.Dangles = w.Dangles := by
  funext s d
  simp only [Dangles, perm.mem_iff]

end Workflow

namespace DependencyGraph

variable {w v : Workflow} {g k : DependencyGraph}

theorem foldl_max_le {n start : Nat} {numbers : List Nat} (first : start ≤ n)
    (bound : ∀ m ∈ numbers, m ≤ n) : numbers.foldl max start ≤ n := by
  induction numbers generalizing start with
  | nil => exact first
  | cons m rest ih =>
      obtain ⟨here, later⟩ := List.forall_mem_cons.mp bound
      exact ih (Nat.max_le.mpr ⟨first, here⟩) later

theorem height_le (built : ofWorkflow w = .ok g) {n : Nat} (bound : ∀ s ∈ w.steps, g.rank s < n) :
    g.height ≤ n := by
  apply foldl_max_le (Nat.zero_le n)
  intro m listed
  obtain ⟨⟨id, level⟩, member, rfl⟩ := List.mem_map.mp listed
  obtain ⟨order, ordered, complete, levels⟩ := levels_of_built built
  have ids : g.levels.map (·.1) = order := by rw [levels, levelsOf_ids ordered]
  have among : id ∈ order := ids ▸ List.mem_map.mpr ⟨_, member, rfl⟩
  obtain ⟨s, present, rfl⟩ := List.mem_map.mp ((complete id).mp among)
  have found : g.level? s.id = some level := by
    rw [level?, levelIn?, Lookup.find?_of_mem (ids ▸ ordered.nodup) member]
    rfl
  have same := (level?_eq_rank built present).symm.trans found
  have lower := bound s present
  rw [Option.some.inj same] at lower
  exact lower

theorem exists_cycle_of_error {e : DefinitionError} (failed : ofWorkflow w = .error e)
    (clear : dangling? (edgesOf w) = none) : ∃ id, e = .cycle id := by
  cases walked : Graph.walk (w.steps.map (·.id)) (dependenciesIn (edgesOf w)) with
  | error cycle =>
      have same := failed.symm.trans (ofWorkflow_eq_cycle.mpr ⟨clear, cycle, walked, rfl⟩)
      cases same
      exact ⟨cycle.back, rfl⟩
  | ok order =>
      have same := failed.symm.trans (ofWorkflow_eq_ok.mpr ⟨clear, order, walked, rfl⟩)
      cases same

section Both

variable (perm : w.steps.Perm v.steps) (distinct : w.Distinct) (built : ofWorkflow w = .ok g)
  (rebuilt : ofWorkflow v = .ok k)
include perm distinct built rebuilt

/-- Every step has the same level in both graphs: the levels of what it depends on are the same. -/
theorem rank_rearranged {s : Step} (member : s ∈ w.steps) : g.rank s = k.rank s := by
  induction level : g.rank s using Nat.strongRecOn generalizing s with
  | ind n ih =>
      have again := perm.mem_iff.mp member
      have dependencies : levelAbove g.levels s.dependencies = levelAbove k.levels s.dependencies := by
        apply levelAbove_congr
        intro d listed
        obtain ⟨t, present, rfl, lower⟩ :=
          rank_lt_of_transGen built distinct (.single ⟨s, member, rfl, listed⟩)
        show g.level? t.id = k.level? t.id
        rw [level?_eq_rank built present, level?_eq_rank rebuilt (perm.mem_iff.mp present),
          ih (g.rank t) (level ▸ lower) present rfl]
      have one := level?_eq_levelAbove built distinct member
      have two := level?_eq_levelAbove rebuilt (distinct.rearranged perm) again
      rw [level?_eq_rank built member] at one
      rw [level?_eq_rank rebuilt again, ← dependencies, ← one, level] at two
      exact (Option.some.inj two).symm

theorem stepsAt_rearranged (n : Nat) : (g.stepsAt w n).Perm (k.stepsAt v n) := by
  have same : (w.steps.filter fun s => g.rank s = n) = w.steps.filter fun s => k.rank s = n := by
    apply List.filter_congr
    intro s member
    rw [rank_rearranged perm distinct built rebuilt member]
  rw [stepsAt_eq built, stepsAt_eq rebuilt, same]
  exact perm.filter _

theorem height_rearranged : g.height = k.height := by
  apply Nat.le_antisymm
  · apply height_le built
    intro s member
    rw [rank_rearranged perm distinct built rebuilt member]
    exact rank_lt_height rebuilt (perm.mem_iff.mp member)
  · apply height_le rebuilt
    intro s member
    have present := perm.mem_iff.mpr member
    rw [← rank_rearranged perm distinct built rebuilt present]
    exact rank_lt_height built present

end Both

section Either

variable (perm : w.steps.Perm v.steps) (distinct : w.Distinct)
include perm distinct

theorem exists_built_rearranged (built : ofWorkflow w = .ok g) : ∃ k, ofWorkflow v = .ok k := by
  apply exists_built (distinct.rearranged perm)
  · rw [Workflow.dangles_rearranged perm]
    exact sound_of_built built distinct
  · rw [Workflow.dependsOn_rearranged perm]
    exact fun ⟨id, cycle⟩ => acyclic_of_built built distinct id cycle

theorem dangling?_rearranged :
    dangling? (edgesOf w) = none ↔ dangling? (edgesOf v) = none := by
  rw [dangling?_eq_none_iff distinct, dangling?_eq_none_iff (distinct.rearranged perm),
    Workflow.dangles_rearranged perm]

/-- Both workflows have graphs, or neither has one for the same reason. -/
theorem ofWorkflow_rearranged :
    (∃ g k, ofWorkflow w = .ok g ∧ ofWorkflow v = .ok k) ∨
      ∃ e f, ofWorkflow w = .error e ∧ ofWorkflow v = .error f ∧ e.SameKind f := by
  have clear := dangling?_rearranged perm distinct
  cases built : ofWorkflow w with
  | ok g =>
      obtain ⟨k, rebuilt⟩ := exists_built_rearranged perm distinct built
      exact Or.inl ⟨g, k, rfl, rebuilt⟩
  | error e =>
      cases rebuilt : ofWorkflow v with
      | ok k =>
          obtain ⟨g, again⟩ := exists_built_rearranged perm.symm (distinct.rearranged perm) rebuilt
          rw [built] at again
          cases again
      | error f =>
          refine Or.inr ⟨e, f, rfl, rfl, ?_⟩
          cases one : dangling? (edgesOf w) with
          | some pair =>
              cases two : dangling? (edgesOf v) with
              | none => exact absurd (clear.mpr two) (by simp [one])
              | some pair' =>
                  cases built.symm.trans (ofWorkflow_eq_dangling.mpr one)
                  cases rebuilt.symm.trans (ofWorkflow_eq_dangling.mpr two)
                  exact .dangling _ _ _ _
          | none =>
              obtain ⟨id, rfl⟩ := exists_cycle_of_error built one
              obtain ⟨id', rfl⟩ := exists_cycle_of_error rebuilt (clear.mp one)
              exact .cycle id id'

end Either

end DependencyGraph

end Stepwise
