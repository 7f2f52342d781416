import Stepwise.Proofs.Execution.Visits
import Stepwise.Proofs.Workflow.Levels

/-!
A run through the levels of a workflow: it goes up the levels, an attempt sees the outputs of exactly
the steps of lower levels, and every step of the levels that are begun is attempted once.
-/

namespace Stepwise

open Relation (TransGen)

/-! ### Levels of steps -/

namespace DependencyGraph

/-- The level of a step; a step outside the graph counts as one of the lowest level. -/
def rank (g : DependencyGraph) (s : Step) : Nat := (g.level? s.id).getD 0

variable {w : Workflow} {g : DependencyGraph} (built : ofWorkflow w = .ok g)
include built

theorem level?_eq_rank {s : Step} (member : s ∈ w.steps) : g.level? s.id = some (g.rank s) := by
  obtain ⟨level, found⟩ := level?_isSome built member
  rw [rank, found, Option.getD_some]

theorem rank_lt_of_transGen (distinct : w.Distinct) {s : Step} {d : String}
    (path : TransGen w.DependsOn s.id d) : ∃ t ∈ w.steps, t.id = d ∧ g.rank t < g.rank s := by
  obtain ⟨t, member, rfl, low, high, atLow, atHigh, lower⟩ :=
    exists_lower_of_transGen built distinct path
  refine ⟨t, member, rfl, ?_⟩
  rw [rank, rank, atLow, atHigh]
  exact lower

theorem mem_stepsAt {s : Step} {level : Nat} :
    s ∈ g.stepsAt w level ↔ s ∈ w.steps ∧ g.rank s = level := by
  rw [stepsAt, List.mem_filter]
  constructor
  · rintro ⟨member, found⟩
    rw [level?_eq_rank built member] at found
    exact ⟨member, by simpa using found⟩
  · rintro ⟨member, rfl⟩
    exact ⟨member, by rw [level?_eq_rank built member, beq_self_eq_true]⟩

theorem existsUnique_stepsAt {s : Step} (member : s ∈ w.steps) : ∃! level, s ∈ g.stepsAt w level := by
  refine ⟨g.rank s, (mem_stepsAt built).mpr ⟨member, rfl⟩, ?_⟩
  intro level here
  exact ((mem_stepsAt built).mp here).2.symm

theorem stepsAt_eq (level : Nat) :
    g.stepsAt w level = w.steps.filter fun s => g.rank s = level := by
  apply List.filter_congr
  intro s member
  rw [level?_eq_rank built member, Option.some_beq_some]
  rfl

/-- A step of a level is declared behind all steps of the level that stand before it. -/
theorem steps_of_stepsAt {level : Nat} {pre post : List Step} {s : Step}
    (split : g.stepsAt w level = pre ++ s :: post) :
    ∃ left right, w.steps = left ++ s :: right ∧ ∀ t ∈ left, g.rank t = level → t ∈ pre := by
  rw [stepsAt_eq built, List.filter_eq_append_iff] at split
  obtain ⟨left, right, whole, leftLevel, rightLevel⟩ := split
  obtain ⟨gap, rest, rfl, dropped, -, -⟩ := List.filter_eq_cons_iff.mp rightLevel
  refine ⟨left ++ gap, rest, by rw [whole, List.append_assoc], ?_⟩
  intro t declared sameLevel
  rcases List.mem_append.mp declared with inLeft | inGap
  · rw [← leftLevel]
    exact List.mem_filter.mpr ⟨inLeft, decide_eq_true sameLevel⟩
  · exact absurd (decide_eq_true sameLevel) (dropped t inGap)

theorem rank_lt_height {s : Step} (member : s ∈ w.steps) : g.rank s < g.height := by
  have found := level?_eq_rank built member
  obtain ⟨entry, atEntry, same⟩ := Option.map_eq_some_iff.mp found
  apply le_foldl_max
  exact Or.inr (List.mem_map.mpr ⟨entry, List.mem_of_find?_eq_some atEntry, by rw [same]⟩)

theorem mem_flatten_stepsAt {s : Step} {n : Nat} :
    s ∈ ((List.range n).map (g.stepsAt w)).flatten ↔ s ∈ w.steps ∧ g.rank s < n := by
  simp only [List.mem_flatten, List.mem_map, List.mem_range]
  constructor
  · rintro ⟨_, ⟨level, below, rfl⟩, inside⟩
    obtain ⟨member, same⟩ := (mem_stepsAt built).mp inside
    exact ⟨member, same ▸ below⟩
  · rintro ⟨member, below⟩
    exact ⟨_, ⟨g.rank s, below, rfl⟩, (mem_stepsAt built).mpr ⟨member, rfl⟩⟩

/-- The lowest levels hold the steps of lower rank, each once. -/
theorem flatten_stepsAt_perm (n : Nat) :
    ((List.range n).map (g.stepsAt w)).flatten.Perm (w.steps.filter fun s => g.rank s < n) := by
  induction n with
  | zero => simp
  | succ n ih =>
      have lower : (w.steps.filter fun s => g.rank s < n + 1).filter (fun s => g.rank s < n) =
          w.steps.filter fun s => g.rank s < n := by
        rw [List.filter_filter]
        apply List.filter_congr
        intro s _
        rw [← Bool.decide_and, decide_eq_decide]
        omega
      have same : (w.steps.filter fun s => g.rank s < n + 1).filter (fun s => !(g.rank s < n)) =
          g.stepsAt w n := by
        rw [stepsAt_eq built, List.filter_filter]
        apply List.filter_congr
        intro s _
        rw [← decide_not, ← Bool.decide_and, decide_eq_decide]
        omega
      have parts := List.filter_append_perm (fun s => decide (g.rank s < n))
        (w.steps.filter fun s => g.rank s < n + 1)
      rw [lower, same] at parts
      rw [List.range_succ, List.map_append, List.flatten_append, List.map_singleton,
        List.flatten_singleton]
      exact (ih.append_right _).trans parts

theorem flatten_stepsByLevel_perm : (g.stepsByLevel w).flatten.Perm w.steps := by
  have all : (w.steps.filter fun s => g.rank s < g.height) = w.steps := by
    rw [List.filter_eq_self]
    intro s member
    exact decide_eq_true (rank_lt_height built member)
  have parts := flatten_stepsAt_perm built g.height
  rwa [all] at parts

end DependencyGraph

/-- What stands around an item of a list that is made from the first numbers. -/
theorem range_map_eq_append {α : Type} {f : Nat → α} {n : Nat} {pre post : List α} {a : α}
    (split : (List.range n).map f = pre ++ a :: post) :
    ∃ k < n, pre = (List.range k).map f ∧ a = f k ∧ post = (List.range' (k + 1) (n - k - 1)).map f := by
  obtain ⟨left, right, numbers, rfl, tail⟩ := List.map_eq_append_iff.mp split
  obtain ⟨k, last, rfl, rfl, rfl⟩ := List.map_eq_cons_iff.mp tail
  rw [List.range_eq_range', List.range'_eq_append_iff] at numbers
  obtain ⟨length, within, rfl, rest⟩ := numbers
  obtain ⟨rfl, some, rfl⟩ := List.range'_eq_cons_iff.mp rest.symm
  simp only [Nat.zero_add, Nat.mul_one] at some ⊢
  exact ⟨length, by omega, by rw [List.range_eq_range'], rfl, rfl⟩

namespace Levels

/-! ### Attempts up the levels -/

/-- Attempts at steps of a workflow that go up the levels, where an attempt is made after all steps of
lower levels have completed, with exactly their outputs in its context. -/
structure Orderly (g : DependencyGraph) (w : Workflow) (start : Context) (attempt : Attempts)
    (visits : List Visit) : Prop where
  member : ∀ v ∈ visits, v.step ∈ w.steps
  once : (visits.map (·.step.id)).Nodup
  ascending : visits.Pairwise fun u v => g.rank u.step ≤ g.rank v.step
  below : ∀ v ∈ visits, ∀ s ∈ w.steps, g.rank s < g.rank v.step →
    ∃ u ∈ visits, u.step = s ∧ u.Completes attempt
  context : ∀ v ∈ visits, v.context = { start with
    results := (visits.filter fun u => g.rank u.step < g.rank v.step).map (Visit.entry attempt) }

section Orderly

variable {w : Workflow} {g : DependencyGraph} {attempt : Attempts} {start : Context}
  {visits : List Visit} {n : Nat}
  (built : DependencyGraph.ofWorkflow w = .ok g) (distinct : w.Distinct)
include built

theorem nodup_flatten_ids (distinct : w.Distinct) :
    (((List.range n).map (g.stepsAt w)).flatten.map (·.id)).Nodup := by
  have kept : ((w.steps.filter fun s => g.rank s < n).map (·.id)).Sublist (w.steps.map (·.id)) :=
    List.filter_sublist.map _
  exact ((DependencyGraph.flatten_stepsAt_perm built n).map _).nodup_iff.mpr (distinct.sublist kept)

/-- What the lowest levels are passed with. -/
theorem Passes.results_of_empty {final : Context} (distinct : w.Distinct) (named : Named attempt)
    (empty : start.results = [])
    (passes : Passes attempt start ((List.range n).map (g.stepsAt w)) visits final) :
    final = { start with results := visits.map (Visit.entry attempt) } := by
  have gained := passes.results_eq named (by
    rw [empty]
    exact nodup_flatten_ids built distinct)
  obtain ⟨inputs, run⟩ := passes.inputs_eq
  rw [empty, List.nil_append] at gained
  rw [← inputs, ← run, ← gained]

/-- The attempts of the lowest levels are at their steps. -/
theorem rank_lt_of_mem {part : List Visit}
    (steps : part.map (·.step) = ((List.range n).map (g.stepsAt w)).flatten) {v : Visit}
    (inside : v ∈ part) : v.step ∈ w.steps ∧ g.rank v.step < n := by
  rw [← DependencyGraph.mem_flatten_stepsAt built, ← steps]
  exact List.mem_map.mpr ⟨v, inside, rfl⟩

/-- An attempt is made when the levels below its own have been passed, which no later attempt belongs
to. -/
theorem Goes.passes_below (goes : Goes attempt start ((List.range n).map (g.stepsAt w)) visits)
    {v : Visit} (inside : v ∈ visits) :
    Passes attempt start ((List.range (g.rank v.step)).map (g.stepsAt w))
      (visits.filter fun u => g.rank u.step < g.rank v.step) v.context := by
  obtain ⟨pre, steps, post, before, after, levels, same, here, passes, above⟩ := goes.split inside
  obtain ⟨k, -, rfl, rfl, rfl⟩ := range_map_eq_append levels
  obtain ⟨-, rfl⟩ := (DependencyGraph.mem_stepsAt built).mp here
  -- Of the attempts before it and in its level and after it, only the first are on lower levels.
  have lower : before.filter (fun u => g.rank u.step < g.rank v.step) = before := by
    rw [List.filter_eq_self]
    intro u member
    exact decide_eq_true (rank_lt_of_mem built passes.goes.map_step member).2
  have level : ((g.stepsAt w (g.rank v.step)).map (Visit.mk v.context)).filter
      (fun u => g.rank u.step < g.rank v.step) = [] := by
    rw [List.filter_eq_nil_iff]
    intro u member
    obtain ⟨s, atLevel, rfl⟩ := List.mem_map.mp member
    have equal := ((DependencyGraph.mem_stepsAt built).mp atLevel).2
    simp [equal]
  have higher : after.filter (fun u => g.rank u.step < g.rank v.step) = [] := by
    rw [List.filter_eq_nil_iff]
    intro u member
    have among : u.step ∈ after.map (·.step) := List.mem_map.mpr ⟨u, member, rfl⟩
    rw [above, List.mem_flatten] at among
    obtain ⟨_, atPost, atLevel⟩ := among
    obtain ⟨level, bounds, rfl⟩ := List.mem_map.mp atPost
    have bound := (List.mem_range'_1.mp bounds).1
    have equal := ((DependencyGraph.mem_stepsAt built).mp atLevel).2
    rw [decide_eq_true_eq]
    omega
  rw [same, List.filter_append, List.filter_append, lower, level, higher, List.append_nil,
    List.append_nil]
  exact passes

/-- With the level that comes next the steps up to that level have been attempted. -/
theorem Passes.map_step_perm {k : Nat} {before : List Visit} {ctx : Context}
    (passes : Passes attempt start ((List.range k).map (g.stepsAt w)) before ctx) :
    ((before ++ (g.stepsAt w k).map (Visit.mk ctx)).map (·.step)).Perm
      (w.steps.filter fun t => g.rank t ≤ k) := by
  have lowest := DependencyGraph.flatten_stepsAt_perm built (k + 1)
  simp only [Nat.lt_succ_iff] at lowest
  rw [(passes.goes_snoc _).map_step, List.flatten_append, List.flatten_singleton]
  rwa [List.range_succ, List.map_append, List.flatten_append, List.map_singleton,
    List.flatten_singleton] at lowest

theorem Goes.ascending (goes : Goes attempt start ((List.range n).map (g.stepsAt w)) visits) :
    visits.Pairwise fun u v => g.rank u.step ≤ g.rank v.step := by
  have steps : (visits.map (·.step)).Pairwise fun s t => g.rank s ≤ g.rank t := by
    rw [goes.map_step, List.pairwise_flatten, List.pairwise_map]
    constructor
    · intro level atLevel
      obtain ⟨k, -, rfl⟩ := List.mem_map.mp atLevel
      apply List.pairwise_of_forall_mem_list
      intro s here t there
      have left := ((DependencyGraph.mem_stepsAt built).mp here).2
      have right := ((DependencyGraph.mem_stepsAt built).mp there).2
      exact Nat.le_of_eq (left.trans right.symm)
    · apply List.pairwise_lt_range.imp
      intro low high lower s here t there
      rw [((DependencyGraph.mem_stepsAt built).mp here).2,
        ((DependencyGraph.mem_stepsAt built).mp there).2]
      exact Nat.le_of_lt lower
  rw [List.pairwise_map] at steps
  exact steps

theorem Goes.orderly (distinct : w.Distinct) (named : Named attempt) (empty : start.results = [])
    (goes : Goes attempt start ((List.range n).map (g.stepsAt w)) visits) :
    Orderly g w start attempt visits where
  member v inside := (rank_lt_of_mem built goes.map_step inside).1
  once := by
    have ids := nodup_flatten_ids (n := n) built distinct
    rw [← goes.map_step, List.map_map] at ids
    exact ids
  ascending := goes.ascending built
  below v inside s member lower := by
    have passes := goes.passes_below built inside
    have among : s ∈ (visits.filter fun u => g.rank u.step < g.rank v.step).map (·.step) := by
      rw [passes.goes.map_step]
      exact (DependencyGraph.mem_flatten_stepsAt built).mpr ⟨member, lower⟩
    obtain ⟨u, earlier, rfl⟩ := List.mem_map.mp among
    exact ⟨u, (List.mem_filter.mp earlier).1, rfl, passes.completes earlier⟩
  context v inside :=
    (goes.passes_below built inside).results_of_empty built distinct named empty

end Orderly

namespace Orderly

variable {w : Workflow} {g : DependencyGraph} {attempt : Attempts} {start : Context}
  {visits : List Visit}

/-- The names that a context holds are the ids of the steps of lower levels. -/
theorem names_context (orderly : Orderly g w start attempt visits) {v : Visit}
    (inside : v ∈ visits) : Fields.names v.context.results =
      (visits.filter fun u => g.rank u.step < g.rank v.step).map (·.step.id) := by
  rw [orderly.context v inside, Fields.names, List.map_map]
  rfl

/-- A context holds the outputs of every attempt on a lower level. -/
theorem get?_context (orderly : Orderly g w start attempt visits) {u v : Visit}
    (earlier : u ∈ visits) (inside : v ∈ visits) (lower : g.rank u.step < g.rank v.step) :
    Fields.get? v.context.results u.step.id = some (u.entry attempt).2 := by
  apply Fields.get?_of_mem
  · rw [orderly.names_context inside]
    exact orderly.once.sublist (List.filter_sublist.map _)
  · rw [orderly.context v inside]
    exact List.mem_map.mpr ⟨u, List.mem_filter.mpr ⟨earlier, decide_eq_true lower⟩, rfl⟩

/-- A context holds nothing of a step that is on no lower level. -/
theorem get?_context_eq_none (distinct : w.Distinct) (orderly : Orderly g w start attempt visits)
    {v : Visit} (inside : v ∈ visits) {s : Step} (member : s ∈ w.steps)
    (level : g.rank v.step ≤ g.rank s) : Fields.get? v.context.results s.id = none := by
  apply Fields.get?_of_not_mem
  rw [orderly.names_context inside]
  intro known
  obtain ⟨u, lower, same⟩ := List.mem_map.mp known
  obtain ⟨earlier, below⟩ := List.mem_filter.mp lower
  rw [distinct.eq_of_id (orderly.member u earlier) member same, decide_eq_true_eq] at below
  omega

/-- All that a step depends on has completed before it, and its context holds the outputs. -/
theorem get?_of_transGen (built : DependencyGraph.ofWorkflow w = .ok g) (distinct : w.Distinct)
    (orderly : Orderly g w start attempt visits) {v : Visit} (inside : v ∈ visits) {d : String}
    (path : TransGen w.DependsOn v.step.id d) :
    ∃ u ∈ visits, u.step.id = d ∧ g.rank u.step < g.rank v.step ∧ u.Completes attempt ∧
      Fields.get? v.context.results d = some (u.entry attempt).2 := by
  obtain ⟨t, member, rfl, lower⟩ := DependencyGraph.rank_lt_of_transGen built distinct path
  obtain ⟨u, earlier, rfl, completes⟩ := orderly.below v inside t member lower
  exact ⟨u, earlier, rfl, lower, completes, orderly.get?_context earlier inside lower⟩

end Orderly

end Levels

end Stepwise
