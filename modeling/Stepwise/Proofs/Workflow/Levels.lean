import Stepwise.Proofs.Graph.Loop
import Stepwise.Proofs.Workflow.Edges

/-!
When the graph of a workflow can be built, and the levels that it has then: every step has one, and it
is above the levels of the dependencies of the step.
-/

namespace Stepwise.DependencyGraph

open Stepwise.Graph (Depends Ordered Loop)
open Relation (TransGen)

/-! ### Levels in an order -/

theorem le_foldl_max {n start : Nat} {numbers : List Nat}
    (bound : n ≤ start ∨ n ∈ numbers) : n ≤ numbers.foldl max start := by
  induction numbers generalizing start with
  | nil =>
      rcases bound with le | absent
      · exact le
      · cases absent
  | cons m rest ih =>
      apply ih
      rcases bound with le | present
      · exact Or.inl (Nat.le_trans le (Nat.le_max_left start m))
      · rcases List.mem_cons.mp present with same | later
        · exact Or.inl (same ▸ Nat.le_max_right start m)
        · exact Or.inr later

theorem lt_levelAbove {levels : List (String × Nat)} {dependencies : List String} {d : String}
    {level : Nat} (listed : d ∈ dependencies) (found : levelIn? levels d = some level) :
    level < levelAbove levels dependencies := by
  apply le_foldl_max
  exact Or.inr (List.mem_map.mpr ⟨d, listed, by rw [found]; rfl⟩)

theorem levelAbove_congr {levels others : List (String × Nat)} {dependencies : List String}
    (same : ∀ d ∈ dependencies, levelIn? levels d = levelIn? others d) :
    levelAbove levels dependencies = levelAbove others dependencies := by
  unfold levelAbove
  congr 1
  apply List.map_congr_left
  intro d listed
  rw [same d listed]

theorem levelIn?_append_of_ne {levels : List (String × Nat)} {id other : String} {level : Nat}
    (apart : other ≠ id) : levelIn? (levels ++ [(other, level)]) id = levelIn? levels id := by
  rw [levelIn?, Lookup.find?_snoc_of_ne apart]
  rfl

theorem levelIn?_append_self {levels : List (String × Nat)} {id : String} {level : Nat}
    (fresh : id ∉ levels.map (·.1)) : levelIn? (levels ++ [(id, level)]) id = some level := by
  rw [levelIn?, Lookup.find?_snoc_self fresh (a := (id, level)) rfl]
  rfl

variable {edges : List (String × List String)} {nodes order : List String}

theorem levelsOf_snoc (node : String) :
    levelsOf edges (order ++ [node]) = levelsOf edges order ++
      [(node, levelAbove (levelsOf edges order) (dependenciesIn edges node))] := by
  simp only [levelsOf, List.foldl_append, List.foldl_cons, List.foldl_nil]

theorem levelsOf_ids (ordered : Ordered nodes (dependenciesIn edges) order) :
    (levelsOf edges order).map (·.1) = order := by
  induction ordered with
  | nil => rfl
  | snoc before member fresh closed ih => rw [levelsOf_snoc, List.map_append, ih]; rfl

/-- In an order the level of each node is above the levels of its dependencies, and only just. -/
theorem levelIn?_levelsOf (ordered : Ordered nodes (dependenciesIn edges) order) {node : String}
    (present : node ∈ order) :
    levelIn? (levelsOf edges order) node =
      some (levelAbove (levelsOf edges order) (dependenciesIn edges node)) := by
  induction ordered with
  | nil => cases present
  | @snoc order last before member fresh closed ih =>
      -- The level of the last node is no dependency's: it depends on itself nowhere in the order.
      have kept (n : String) (inside : ∀ d, Depends nodes (dependenciesIn edges) n d → d ∈ order) :
          levelAbove (levelsOf edges (order ++ [last])) (dependenciesIn edges n) =
            levelAbove (levelsOf edges order) (dependenciesIn edges n) := by
        apply levelAbove_congr
        intro d listed
        rw [levelsOf_snoc]
        apply levelIn?_append_of_ne
        intro same
        exact fresh (inside last ⟨same ▸ listed, member⟩)
      rcases List.mem_append.mp present with earlier | same
      · have apart : last ≠ node := fun equal => fresh (equal ▸ earlier)
        rw [kept node (fun d edge => before.closed earlier edge), levelsOf_snoc,
          levelIn?_append_of_ne apart]
        exact ih earlier
      · rw [List.mem_singleton.mp same, kept last closed, levelsOf_snoc]
        apply levelIn?_append_self
        rw [levelsOf_ids before]
        exact fresh

/-! ### The graph of a workflow -/

variable {w : Workflow} {g : DependencyGraph}

theorem ofWorkflow_eq_ok :
    ofWorkflow w = .ok g ↔ dangling? (edgesOf w) = none ∧
      ∃ order, Graph.walk (w.steps.map (·.id)) (dependenciesIn (edgesOf w)) = .ok order ∧
        g = ⟨w.steps.map (·.id), edgesOf w, levelsOf (edgesOf w) order⟩ := by
  simp only [ofWorkflow]
  cases dangling? (edgesOf w) with
  | some pair => simp
  | none =>
      cases Graph.walk (w.steps.map (·.id)) (dependenciesIn (edgesOf w)) with
      | error cycle => simp
      | ok order => simp [eq_comm]

theorem ofWorkflow_eq_dangling {id d : String} :
    ofWorkflow w = .error (.dangling id d) ↔ dangling? (edgesOf w) = some (id, d) := by
  simp only [ofWorkflow]
  cases dangling? (edgesOf w) with
  | some pair => simp [Prod.ext_iff]
  | none => cases Graph.walk (w.steps.map (·.id)) (dependenciesIn (edgesOf w)) <;> simp

theorem ofWorkflow_eq_cycle {id : String} :
    ofWorkflow w = .error (.cycle id) ↔ dangling? (edgesOf w) = none ∧
      ∃ cycle, Graph.walk (w.steps.map (·.id)) (dependenciesIn (edgesOf w)) = .error cycle ∧
        cycle.back = id := by
  simp only [ofWorkflow]
  cases dangling? (edgesOf w) with
  | some pair => simp
  | none => cases Graph.walk (w.steps.map (·.id)) (dependenciesIn (edgesOf w)) <;> simp

section Built

variable (built : ofWorkflow w = .ok g)
include built

theorem edges_of_built : g.edges = edgesOf w := by
  obtain ⟨-, order, -, rfl⟩ := ofWorkflow_eq_ok.mp built
  rfl

/-- The levels of a graph are those of an order of all ids. -/
theorem levels_of_built : ∃ order, Ordered (w.steps.map (·.id)) (dependenciesIn (edgesOf w)) order ∧
    (∀ id, id ∈ order ↔ id ∈ w.steps.map (·.id)) ∧ g.levels = levelsOf (edgesOf w) order := by
  obtain ⟨-, order, walked, rfl⟩ := ofWorkflow_eq_ok.mp built
  obtain ⟨ordered, complete⟩ := Graph.walk_ok walked
  exact ⟨order, ordered, complete, rfl⟩

theorem sound_of_built (distinct : w.Distinct) : ¬∃ s d, w.Dangles s d :=
  (dangling?_eq_none_iff distinct).mp (ofWorkflow_eq_ok.mp built).1

theorem acyclic_of_built (distinct : w.Distinct) (id : String) : ¬TransGen w.DependsOn id id := by
  intro cycle
  rw [← depends_eq distinct (sound_of_built built distinct)] at cycle
  obtain ⟨-, order, walked, -⟩ := ofWorkflow_eq_ok.mp built
  obtain ⟨found, failed⟩ := Graph.walk_error_iff.mpr ⟨id, cycle⟩
  rw [walked] at failed
  cases failed

/-- Every step has the level above its dependencies. -/
theorem level?_eq_levelAbove (distinct : w.Distinct) {s : Step} (member : s ∈ w.steps) :
    g.level? s.id = some (levelAbove g.levels s.dependencies) := by
  obtain ⟨order, ordered, complete, levels⟩ := levels_of_built built
  have present : s.id ∈ order := (complete s.id).mpr (List.mem_map.mpr ⟨s, member, rfl⟩)
  rw [level?, levels, levelIn?_levelsOf ordered present, dependenciesIn_edgesOf distinct member]

theorem level?_isSome {s : Step} (member : s ∈ w.steps) : ∃ level, g.level? s.id = some level := by
  obtain ⟨order, ordered, complete, levels⟩ := levels_of_built built
  have present : s.id ∈ order := (complete s.id).mpr (List.mem_map.mpr ⟨s, member, rfl⟩)
  exact ⟨_, by rw [level?, levels, levelIn?_levelsOf ordered present]⟩

/-- What a step depends on is a step of a lower level. -/
theorem exists_lower_of_dependsOn (distinct : w.Distinct) {a b : String} (edge : w.DependsOn a b) :
    ∃ s ∈ w.steps, s.id = b ∧ ∃ low high, g.level? b = some low ∧ g.level? a = some high ∧
      low < high := by
  obtain ⟨s, member, rfl, listed⟩ := edge
  have known : ∃ t ∈ w.steps, t.id = b := by
    by_contra unknown
    exact sound_of_built built distinct ⟨s, b, member, listed,
      fun t present same => unknown ⟨t, present, same⟩⟩
  obtain ⟨t, present, rfl⟩ := known
  obtain ⟨low, lower⟩ := level?_isSome built present
  exact ⟨t, present, rfl, low, _, lower, level?_eq_levelAbove built distinct member,
    lt_levelAbove listed lower⟩

theorem exists_lower_of_transGen (distinct : w.Distinct) {a b : String}
    (path : TransGen w.DependsOn a b) :
    ∃ s ∈ w.steps, s.id = b ∧ ∃ low high, g.level? b = some low ∧ g.level? a = some high ∧
      low < high := by
  induction path with
  | single edge => exact exists_lower_of_dependsOn built distinct edge
  | tail _ edge ih =>
      obtain ⟨-, -, -, middle, high, atMiddle, atHigh, upper⟩ := ih
      obtain ⟨s, member, same, low, _, atLow, again, lower⟩ :=
        exists_lower_of_dependsOn built distinct edge
      rw [atMiddle] at again
      cases again
      exact ⟨s, member, same, low, high, atLow, atHigh, Nat.lt_trans lower upper⟩

end Built

/-- A graph is built where nothing dangles and nothing depends on itself. -/
theorem exists_built (distinct : w.Distinct) (sound : ¬∃ s d, w.Dangles s d)
    (acyclic : ¬∃ id, TransGen w.DependsOn id id) : ∃ g, ofWorkflow w = .ok g := by
  have clear := (dangling?_eq_none_iff distinct).mpr sound
  rw [← depends_eq distinct sound, ← Graph.walk_error_iff] at acyclic
  cases walked : Graph.walk (w.steps.map (·.id)) (dependenciesIn (edgesOf w)) with
  | error cycle => exact absurd ⟨cycle, walked⟩ acyclic
  | ok order => exact ⟨_, ofWorkflow_eq_ok.mpr ⟨clear, order, walked, rfl⟩⟩

/-- Building the graph of a workflow decides whether it is sound. A dependency without a step is
reported exactly where there is one, otherwise a cycle exactly where there is one, through an id that
lies on it, and otherwise every step has a level. The descent ends in every case. -/
theorem ofWorkflow_decides (w : Workflow) :
    Loop.Halts (w.steps.map (·.id)) (dependenciesIn (edgesOf w)) (.start (w.steps.map (·.id)))
        (Graph.walk (w.steps.map (·.id)) (dependenciesIn (edgesOf w))) ∧
      (w.Distinct →
        ((∃ id d, ofWorkflow w = .error (.dangling id d)) ↔ ∃ s d, w.Dangles s d) ∧
        ((¬∃ s d, w.Dangles s d) →
          ((∃ id, ofWorkflow w = .error (.cycle id)) ↔ ∃ id, TransGen w.DependsOn id id)) ∧
        (∀ id, ofWorkflow w = .error (.cycle id) → TransGen w.DependsOn id id) ∧
        ((¬∃ s d, w.Dangles s d) → (¬∃ id, TransGen w.DependsOn id id) →
          ∃ g, ofWorkflow w = .ok g ∧ ∀ s ∈ w.steps, ∃ level, g.level? s.id = some level)) := by
  refine ⟨Loop.halts_start, fun distinct => ⟨?_, ?_, ?_, ?_⟩⟩
  · constructor
    · rintro ⟨id, d, failed⟩
      obtain ⟨s, -, dangles⟩ := dangles_of_dangling? distinct (ofWorkflow_eq_dangling.mp failed)
      exact ⟨s, d, dangles⟩
    · intro dangles
      cases found : dangling? (edgesOf w) with
      | none => exact absurd dangles ((dangling?_eq_none_iff distinct).mp found)
      | some pair => exact ⟨pair.1, pair.2, ofWorkflow_eq_dangling.mpr found⟩
  · intro sound
    have clear := (dangling?_eq_none_iff distinct).mpr sound
    rw [← depends_eq distinct sound, ← Graph.walk_error_iff]
    constructor
    · rintro ⟨id, failed⟩
      obtain ⟨-, cycle, walked, -⟩ := ofWorkflow_eq_cycle.mp failed
      exact ⟨cycle, walked⟩
    · rintro ⟨cycle, walked⟩
      exact ⟨cycle.back, ofWorkflow_eq_cycle.mpr ⟨clear, cycle, walked, rfl⟩⟩
  · intro id failed
    obtain ⟨clear, cycle, walked, rfl⟩ := ofWorkflow_eq_cycle.mp failed
    rw [← depends_eq distinct ((dangling?_eq_none_iff distinct).mp clear)]
    exact Graph.walk_error walked
  · intro sound acyclic
    obtain ⟨g, built⟩ := exists_built distinct sound acyclic
    exact ⟨g, built, fun s member => level?_isSome built member⟩

/-- Two steps with the given dependencies. -/
def twoSteps (first second : List String) : Workflow :=
  { id := "two-steps"
    name := "Two steps"
    steps := [
      { id := "a", kind := StepKind.script.name, dependencies := first },
      { id := "b", kind := StepKind.script.name, dependencies := second }] }

theorem distinct_twoSteps (first second : List String) : (twoSteps first second).Distinct := by
  show ["a", "b"].Nodup
  decide

theorem dependsOn_twoSteps {first second : List String} {x y : String} :
    (twoSteps first second).DependsOn x y ↔ "a" = x ∧ y ∈ first ∨ "b" = x ∧ y ∈ second := by
  simp only [Workflow.DependsOn, twoSteps, List.exists_mem_cons_iff, List.not_mem_nil, false_and,
    exists_false, or_false]

theorem sound_twoSteps {first second : List String} (known : first ++ second ⊆ ["a", "b"]) :
    ¬∃ s d, (twoSteps first second).Dangles s d := by
  rintro ⟨s, d, member, listed, unknown⟩
  have edge := dependsOn_twoSteps.mp ⟨s, member, rfl, listed⟩
  have inside : d ∈ first ++ second := by
    rcases edge with ⟨-, left⟩ | ⟨-, right⟩
    · exact List.mem_append_left second left
    · exact List.mem_append_right first right
  have named := known inside
  simp only [List.mem_cons, List.not_mem_nil, or_false] at named
  rcases named with rfl | rfl
  · exact unknown _ List.mem_cons_self rfl
  · exact unknown _ (List.mem_cons_of_mem _ List.mem_cons_self) rfl

/-- A second step that depends on the first is on no cycle. -/
theorem acyclic_twoSteps : ¬∃ id, TransGen (twoSteps [] ["a"]).DependsOn id id := by
  have only {x y : String} (path : TransGen (twoSteps [] ["a"]).DependsOn x y) :
      x = "b" ∧ y = "a" := by
    induction path with
    | single edge =>
        rcases dependsOn_twoSteps.mp edge with ⟨-, listed⟩ | ⟨same, listed⟩
        · cases listed
        · exact ⟨same.symm, List.mem_singleton.mp listed⟩
    | tail _ edge ih =>
        rcases dependsOn_twoSteps.mp edge with ⟨-, listed⟩ | ⟨same, -⟩
        · cases listed
        · exact absurd (ih.2.symm.trans same.symm) (by decide)
  rintro ⟨id, cycle⟩
  exact absurd ((only cycle).1.symm.trans (only cycle).2) (by decide)

theorem ofWorkflow_twoSteps :
    (∃ id d, ofWorkflow (twoSteps [] ["c"]) = .error (.dangling id d)) ∧
      (∃ id, ofWorkflow (twoSteps ["b"] ["a"]) = .error (.cycle id)) ∧
      ∃ g, ofWorkflow (twoSteps [] ["a"]) = .ok g ∧
        ∀ s ∈ (twoSteps [] ["a"]).steps, ∃ level, g.level? s.id = some level := by
  refine ⟨?_, ?_, ?_⟩
  · obtain ⟨dangling, -, -, -⟩ := (ofWorkflow_decides (twoSteps [] ["c"])).2 (distinct_twoSteps _ _)
    refine dangling.mpr ⟨_, "c", List.mem_cons_of_mem _ List.mem_cons_self, List.mem_cons_self, ?_⟩
    simp [twoSteps]
  · obtain ⟨-, cyclic, -, -⟩ := (ofWorkflow_decides (twoSteps ["b"] ["a"])).2 (distinct_twoSteps _ _)
    refine (cyclic (sound_twoSteps (by decide))).mpr ⟨"a", ?_⟩
    exact .tail (.single (dependsOn_twoSteps.mpr (Or.inl ⟨rfl, List.mem_cons_self⟩)))
      (dependsOn_twoSteps.mpr (Or.inr ⟨rfl, List.mem_cons_self⟩))
  · obtain ⟨-, -, -, sorted⟩ := (ofWorkflow_decides (twoSteps [] ["a"])).2 (distinct_twoSteps _ _)
    exact sorted (sound_twoSteps (by decide)) acyclic_twoSteps

end Stepwise.DependencyGraph
