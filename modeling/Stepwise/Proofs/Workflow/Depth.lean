import Mathlib.Order.Bounds.Basic
import Mathlib.Order.MinMax
import Stepwise.Proofs.Workflow.Rearranged

/-!
Levels are depths: the level of a step is the length of the longest chain of dependencies below it. The
levels have no gaps, and they part the steps of a workflow among them.
-/

namespace Stepwise

open Relation (TransGen)

/-! ### Chains of dependencies -/

namespace Workflow

/-- Ids below an id, each of which the one before it depends on. -/
def Chain (w : Workflow) (id : String) (below : List String) : Prop :=
  (id :: below).IsChain w.DependsOn

/-- The lengths of the chains of dependencies below an id. -/
def depths (w : Workflow) (id : String) : Set Nat := {n | ∃ below, w.Chain id below ∧ below.length = n}

end Workflow

namespace DependencyGraph

/-- The highest level; -1 where there is none. -/
def maxLevel (g : DependencyGraph) : Int := (g.levels.map fun l => (l.2 : Int)).foldl max (-1)

/-! ### Maxima -/

theorem foldl_max_eq_or_mem (start : Nat) (numbers : List Nat) :
    numbers.foldl max start = start ∨ numbers.foldl max start ∈ numbers := by
  induction numbers generalizing start with
  | nil => exact Or.inl rfl
  | cons n rest ih =>
      rw [List.foldl_cons, List.mem_cons]
      rcases ih (max start n) with same | later
      · rw [same]
        exact (max_choice start n).imp id Or.inl
      · exact Or.inr (Or.inr later)

theorem height_eq_maxLevel_add_one (g : DependencyGraph) : (g.height : Int) = g.maxLevel + 1 := by
  have shifted (levels : List (String × Nat)) (start : Nat) :
      (((levels.map fun l => l.2 + 1).foldl max start : Nat) : Int) =
        (levels.map fun l => (l.2 : Int)).foldl max ((start : Int) - 1) + 1 := by
    induction levels generalizing start with
    | nil => simp
    | cons l rest ih =>
        rw [List.map_cons, List.map_cons, List.foldl_cons, List.foldl_cons, ih]
        congr 2
        omega
  exact shifted g.levels 0

section Built

variable {w : Workflow} {g : DependencyGraph} {s : Step} (built : ofWorkflow w = .ok g)
include built

/-! ### The deepest dependency -/

/-- Of the dependencies of a step above the lowest level one is on the level just below. -/
theorem exists_dependency_below (distinct : w.Distinct) (member : s ∈ w.steps) {n : Nat}
    (level : g.rank s = n + 1) : ∃ t ∈ w.steps, t.id ∈ s.dependencies ∧ g.rank t = n := by
  have above : g.rank s = levelAbove g.levels s.dependencies := by
    have found := level?_eq_levelAbove built distinct member
    rw [level?_eq_rank built member] at found
    exact Option.some.inj found
  rw [above, levelAbove] at level
  rcases foldl_max_eq_or_mem 0 (s.dependencies.map fun d => (levelIn? g.levels d).getD 0 + 1) with
    lowest | among
  · rw [lowest] at level
    cases level
  · obtain ⟨d, listed, same⟩ := List.mem_map.mp among
    obtain ⟨t, present, rfl, -⟩ :=
      rank_lt_of_transGen built distinct (.single ⟨s, member, rfl, listed⟩)
    exact ⟨t, present, listed, Nat.succ.inj (same.trans level)⟩

theorem rank_eq_zero_iff (distinct : w.Distinct) (member : s ∈ w.steps) :
    g.rank s = 0 ↔ s.dependencies = [] := by
  constructor
  · intro lowest
    rw [List.eq_nil_iff_forall_not_mem]
    intro d listed
    obtain ⟨t, -, -, lower⟩ := rank_lt_of_transGen built distinct (.single ⟨s, member, rfl, listed⟩)
    exact Nat.not_lt_zero _ (lowest ▸ lower)
  · intro free
    by_contra above
    obtain ⟨n, level⟩ := Nat.exists_eq_succ_of_ne_zero above
    obtain ⟨t, -, listed, -⟩ := exists_dependency_below built distinct member level
    rw [free] at listed
    cases listed

/-- A step above the lowest level is just above the highest of its dependencies. -/
theorem level?_isGreatest (distinct : w.Distinct) (member : s ∈ w.steps) {n : Nat}
    (level : g.rank s = n + 1) : IsGreatest {k | ∃ d ∈ s.dependencies, g.level? d = some k} n := by
  constructor
  · obtain ⟨t, present, listed, rfl⟩ := exists_dependency_below built distinct member level
    exact ⟨t.id, listed, level?_eq_rank built present⟩
  · rintro k ⟨d, listed, found⟩
    obtain ⟨t, present, rfl, lower⟩ :=
      rank_lt_of_transGen built distinct (.single ⟨s, member, rfl, listed⟩)
    rw [level?_eq_rank built present] at found
    rw [level] at lower
    rw [← Option.some.inj found]
    exact Nat.lt_succ_iff.mp lower

/-- Where there is a step there is one on every level below its own. -/
theorem exists_rank_eq (distinct : w.Distinct) (member : s ∈ w.steps) {k : Nat}
    (low : k ≤ g.rank s) : ∃ t ∈ w.steps, g.rank t = k := by
  induction level : g.rank s generalizing s with
  | zero => exact ⟨s, member, by omega⟩
  | succ n ih =>
      rcases Nat.lt_or_eq_of_le (level ▸ low) with lower | same
      · obtain ⟨t, present, -, next⟩ := exists_dependency_below built distinct member level
        exact ih present (by omega) next
      · exact ⟨s, member, level.trans same.symm⟩

/-! ### Longest chains -/

/-- Every dependency of a chain is on a lower level. -/
theorem length_le_rank (distinct : w.Distinct) (member : s ∈ w.steps) {below : List String}
    (chain : w.Chain s.id below) : below.length ≤ g.rank s := by
  induction below generalizing s with
  | nil => exact Nat.zero_le _
  | cons d rest ih =>
      obtain ⟨edge, further⟩ := List.isChain_cons_cons.mp chain
      obtain ⟨t, present, rfl, lower⟩ := rank_lt_of_transGen built distinct (.single edge)
      exact Nat.lt_of_le_of_lt (ih present further) lower

/-- A chain that goes down by one level at a time reaches the lowest. -/
theorem exists_chain (distinct : w.Distinct) (member : s ∈ w.steps) :
    ∃ below, w.Chain s.id below ∧ below.length = g.rank s := by
  induction level : g.rank s generalizing s with
  | zero => exact ⟨[], List.IsChain.singleton _, rfl⟩
  | succ n ih =>
      obtain ⟨t, present, listed, next⟩ := exists_dependency_below built distinct member level
      obtain ⟨below, chain, length⟩ := ih present next
      exact ⟨t.id :: below, List.isChain_cons_cons.mpr ⟨⟨s, member, rfl, listed⟩, chain⟩,
        congrArg (· + 1) length⟩

theorem rank_isGreatest (distinct : w.Distinct) (member : s ∈ w.steps) :
    IsGreatest (w.depths s.id) (g.rank s) := by
  refine ⟨exists_chain built distinct member, ?_⟩
  rintro n ⟨below, chain, rfl⟩
  exact length_le_rank built distinct member chain

/-! ### No level is empty -/

theorem lt_height_iff {k : Nat} : k < g.height ↔ ∃ s ∈ w.steps, k ≤ g.rank s := by
  constructor
  · intro low
    by_contra none
    push Not at none
    exact absurd (height_le built none) (Nat.not_le.mpr low)
  · rintro ⟨s, member, low⟩
    exact Nat.lt_of_le_of_lt low (rank_lt_height built member)

theorem stepsAt_ne_nil_iff (distinct : w.Distinct) {k : Nat} :
    g.stepsAt w k ≠ [] ↔ k < g.height := by
  rw [lt_height_iff built]
  constructor
  · intro some
    obtain ⟨s, here⟩ := List.exists_mem_of_ne_nil _ some
    obtain ⟨member, rfl⟩ := (mem_stepsAt built).mp here
    exact ⟨s, member, Nat.le_refl _⟩
  · rintro ⟨s, member, low⟩
    obtain ⟨t, present, rfl⟩ := exists_rank_eq built distinct member low
    exact List.ne_nil_of_mem ((mem_stepsAt built).mpr ⟨present, rfl⟩)

theorem height_eq_zero_iff : g.height = 0 ↔ w.steps = [] := by
  constructor
  · intro flat
    rw [List.eq_nil_iff_forall_not_mem]
    intro s member
    exact Nat.not_lt_zero _ (flat ▸ rank_lt_height built member)
  · intro none
    apply Nat.le_zero.mp
    apply height_le built
    rw [none]
    exact List.forall_mem_nil _

/-- In the graph of a workflow the level of every step is the length of the longest chain of dependencies
below it: 0 without dependencies, and otherwise one more than the highest level of a dependency. No step
shares its level with anything that it depends on, directly or not. There is a step on every level up to
the highest and on no other; level by level these are all steps, each once, and in the order of the
workflow on each level. The highest level is -1 exactly if there are no steps. -/
theorem depths_of_built (distinct : w.Distinct) :
    (∀ s ∈ w.steps, ∃ level, g.level? s.id = some level ∧ IsGreatest (w.depths s.id) level ∧
      (s.dependencies = [] → level = 0) ∧
      (s.dependencies ≠ [] → ∃ highest, level = highest + 1 ∧
        IsGreatest {n | ∃ d ∈ s.dependencies, g.level? d = some n} highest)) ∧
    (∀ s ∈ w.steps, ∀ d, TransGen w.DependsOn s.id d → g.level? d ≠ g.level? s.id) ∧
    (∀ k : Nat, g.stepsAt w k ≠ [] ↔ (k : Int) ≤ g.maxLevel) ∧
    g.stepsByLevel w = (List.range (g.maxLevel + 1).toNat).map (g.stepsAt w) ∧
    (g.stepsByLevel w).flatten.Perm w.steps ∧ w.steps.Nodup ∧
    (∀ k, (g.stepsAt w k).Sublist w.steps) ∧
    (g.maxLevel = -1 ↔ w.steps = []) := by
  have heights := g.height_eq_maxLevel_add_one
  refine ⟨?_, ?_, ?_, ?_, flatten_stepsByLevel_perm built, distinct.of_map,
    fun _ => List.filter_sublist, ?_⟩
  · intro s member
    have zero := rank_eq_zero_iff built distinct member
    refine ⟨g.rank s, level?_eq_rank built member, rank_isGreatest built distinct member, zero.mpr, ?_⟩
    intro some
    obtain ⟨n, level⟩ := Nat.exists_eq_succ_of_ne_zero fun lowest => some (zero.mp lowest)
    exact ⟨n, level, level?_isGreatest built distinct member level⟩
  · intro s member d path same
    obtain ⟨t, present, rfl, lower⟩ := rank_lt_of_transGen built distinct path
    rw [level?_eq_rank built present, level?_eq_rank built member] at same
    exact absurd (Option.some.inj same) (Nat.ne_of_lt lower)
  · intro k
    rw [stepsAt_ne_nil_iff built distinct]
    omega
  · rw [stepsByLevel, ← heights, Int.toNat_natCast]
  · rw [← height_eq_zero_iff built]
    omega

end Built

/-- Steps that are declared before what they depend on; the first of them is on top of a long way down
and of two shorter ones. -/
def stacked : Workflow :=
  { id := "stacked"
    name := "Stacked"
    steps := [
      { id := "d", kind := StepKind.script.name, dependencies := ["a", "c", "b"] },
      { id := "c", kind := StepKind.script.name, dependencies := ["b"] },
      { id := "b", kind := StepKind.script.name, dependencies := ["a"] },
      { id := "a", kind := StepKind.script.name }] }

def stackedGraph : DependencyGraph :=
  { nodes := ["d", "c", "b", "a"]
    edges := [("d", ["a", "c", "b"]), ("c", ["b"]), ("b", ["a"]), ("a", [])]
    levels := [("a", 0), ("b", 1), ("c", 2), ("d", 3)] }

theorem ofWorkflow_stacked : ofWorkflow stacked = .ok stackedGraph := by
  have walked : Graph.walk ["d", "c", "b", "a"] (dependenciesIn stackedGraph.edges) =
      .ok ["a", "b", "c", "d"] := by
    simp [Graph.walk, Graph.walkFrom, stackedGraph, dependenciesIn]
  exact ofWorkflow_eq_ok.mpr ⟨rfl, _, walked, rfl⟩

theorem depths_of_built_stacked : ofWorkflow stacked = .ok stackedGraph ∧ stacked.Distinct ∧
    IsGreatest (stacked.depths "d") 3 ∧ stackedGraph.maxLevel = 3 ∧
    (stackedGraph.stepsByLevel stacked).flatten.Perm stacked.steps := by
  have built := ofWorkflow_stacked
  have distinct : stacked.Distinct := by
    show ["d", "c", "b", "a"].Nodup
    decide
  obtain ⟨depths, -, -, -, perm, -⟩ := depths_of_built built distinct
  obtain ⟨level, found, greatest, -⟩ := depths _ List.mem_cons_self
  have top : stackedGraph.level? "d" = some 3 := rfl
  cases found.symm.trans top
  exact ⟨built, distinct, greatest, rfl, perm⟩

end DependencyGraph

end Stepwise
