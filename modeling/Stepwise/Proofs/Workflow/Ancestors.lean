import Stepwise.Proofs.Checked
import Stepwise.Proofs.Workflow.Levels

/-!
The ancestors of a step are what it depends on, directly or not. They are gathered level by level, and
what a step depends on is of a lower level, so its ancestors are known when the step is reached.
-/

namespace Stepwise.DependencyGraph

open Stepwise.Graph (Depends Ordered)
open Relation (TransGen)

/-! ### What is filed under an id -/

section Filed

variable {α : Type} {filed : List (String × α)} {id : String}

theorem entry_of_mem (distinct : (filed.map (·.1)).Nodup) {a : α} (member : (id, a) ∈ filed) :
    entry filed id = .ok a := by
  rw [entry, Lookup.find?_of_mem distinct member]

theorem entry_append_of_ne {other : String} {a : α} (apart : other ≠ id) :
    entry (filed ++ [(other, a)]) id = entry filed id := by
  rw [entry, Lookup.find?_snoc_of_ne apart]
  rfl

theorem entry_append_self {a : α} (fresh : id ∉ filed.map (·.1)) :
    entry (filed ++ [(id, a)]) id = .ok a := by
  rw [entry, Lookup.find?_snoc_self fresh (a := (id, a)) rfl]

end Filed

theorem entry_eq_ok_iff {levels : List (String × Nat)} {id : String} {level : Nat} :
    entry levels id = .ok level ↔ levelIn? levels id = some level := by
  rw [entry, levelIn?]
  cases levels.find? (·.1 == id) with
  | none => exact iff_of_false (by rintro ⟨⟩) (by rintro ⟨⟩)
  | some found => exact ⟨fun same => congrArg some (Except.ok.inj same),
      fun same => congrArg Except.ok (Option.some.inj same)⟩

theorem dependenciesIn_of_entry {filed : List (String × List String)} {id : String}
    {dependencies : List String} (found : entry filed id = .ok dependencies) :
    dependenciesIn filed id = dependencies := by
  rw [entry] at found
  rw [dependenciesIn]
  cases looked : filed.find? (·.1 == id) with
  | none =>
      rw [looked] at found
      cases found
  | some pair =>
      rw [looked] at found
      exact Except.ok.inj found

/-! ### The order of levels -/

variable {g : DependencyGraph} {nodes order : List String}

/-- Where every node has its level the nodes can be put in the order of levels. -/
theorem exists_byLevel {level : String → Nat} (known : ∀ id ∈ g.nodes, g.level? id = some (level id)) :
    ∃ order, g.byLevel = .ok order ∧ order.Perm g.nodes ∧
      order.Pairwise fun a b => level a ≤ level b := by
  have ranked : g.nodes.mapM (fun id => do return (id, ← entry g.levels id)) =
      .ok (g.nodes.map fun id => (id, level id)) := by
    rw [Checked.mapM_eq_ok_iff, List.forall₂_map_right_iff, List.forall₂_same]
    intro id member
    rw [entry_eq_ok_iff.mpr (known id member)]
    rfl
  refine ⟨_, by rw [byLevel, ranked]; rfl, ?_, ?_⟩
  · have sorted := (List.mergeSort_perm (g.nodes.map fun id => (id, level id))
      fun a b => decide (a.2 ≤ b.2)).map (·.1)
    rwa [List.map_map, show (·.1) ∘ (fun id => (id, level id)) = id from rfl, List.map_id] at sorted
  · rw [List.pairwise_map]
    refine (List.pairwise_mergeSort ?_ ?_ _).imp_of_mem ?_
    · intro a b c
      simp only [decide_eq_true_eq]
      exact Nat.le_trans
    · intro a b
      simp only [Bool.or_eq_true, decide_eq_true_eq]
      exact Nat.le_total a.2 b.2
    · intro a b left right le
      obtain ⟨id, -, rfl⟩ := List.mem_map.mp (List.mem_mergeSort.mp left)
      obtain ⟨other, -, rfl⟩ := List.mem_map.mp (List.mem_mergeSort.mp right)
      exact of_decide_eq_true le

/-- Nodes that stand in the order of levels are left in it. -/
theorem byLevel_of_rising (leveled : g.levels.map (·.1) = g.nodes) (distinct : g.nodes.Nodup)
    (rising : g.levels.Pairwise fun a b => a.2 ≤ b.2) : g.byLevel = .ok g.nodes := by
  have ranked : g.nodes.mapM (fun id => do return (id, ← entry g.levels id)) = .ok g.levels := by
    rw [← leveled] at distinct ⊢
    rw [Checked.mapM_eq_ok_iff, List.forall₂_map_left_iff, List.forall₂_same]
    intro pair member
    rw [entry_of_mem distinct member]
    rfl
  have sorted : g.levels.mergeSort (fun a b => decide (a.2 ≤ b.2)) = g.levels :=
    List.mergeSort_of_pairwise (rising.imp fun le => decide_eq_true le)
  rw [byLevel, ranked, ← leveled]
  exact congrArg (fun order => Except.ok (order.map (·.1))) sorted

/-- Nodes whose levels do not fall stand after all that they depend on, which is of a lower level. -/
theorem ordered_of_rising {level : String → Nat} {dependencies : String → List String}
    (distinct : order.Nodup) (complete : ∀ id, id ∈ order ↔ id ∈ nodes)
    (rising : order.Pairwise fun a b => level a ≤ level b)
    (lower : ∀ a ∈ nodes, ∀ d, Depends nodes dependencies a d → level d < level a) :
    Ordered nodes dependencies order := by
  suffices begun : ∀ front back, order = front ++ back → Ordered nodes dependencies front from
    begun order [] (List.append_nil order).symm
  intro front
  induction front using List.reverseRecOn with
  | nil => exact fun _ _ => .nil
  | append_singleton front node ih =>
      intro back split
      rw [List.append_assoc, List.singleton_append] at split
      have member : node ∈ nodes :=
        (complete node).mp (split ▸ List.mem_append_right front List.mem_cons_self)
      rw [split] at distinct rising
      refine .snoc (ih _ split) member ?_ ?_
      · exact fun again => List.disjoint_of_nodup_append distinct again List.mem_cons_self
      · intro d edge
        have present := (complete d).mpr edge.2
        rw [split, List.mem_append] at present
        -- A node that stands no earlier has no lower level.
        rcases present with before | behind
        · exact before
        · have le : level node ≤ level d := by
            rcases List.mem_cons.mp behind with same | later
            · exact Nat.le_of_eq (by rw [same])
            · exact List.rel_of_pairwise_cons (List.pairwise_append.mp rising).2.1 later
          exact absurd (lower node member d edge) (Nat.not_lt.mpr le)

/-! ### Gathering ancestors -/

/-- What is known behind a part of an order: under each of its ids, the ancestors of that id. -/
structure Known (g : DependencyGraph) (nodes order : List String)
    (known : List (String × List String)) : Prop where
  ids : known.map (·.1) = order
  reaches : ∀ a ∈ order, ∃ found, entry known a = .ok found ∧
    ∀ d, d ∈ found ↔ TransGen (Depends nodes g.dependencies) a d

/-- A node comes to its ancestors by way of its dependencies, whose ancestors are known by then. -/
theorem Known.add {known : List (String × List String)} {node : String}
    (behind : Known g nodes order known) (filed : entry g.edges node = .ok (g.dependencies node))
    (whole : g.dependencies node ⊆ nodes) (fresh : node ∉ order)
    (closed : ∀ d, Depends nodes g.dependencies node d → d ∈ order) :
    ∃ more, g.addAncestors known node = .ok more ∧ Known g nodes (order ++ [node]) more := by
  have edge {e : String} (direct : e ∈ g.dependencies node) : Depends nodes g.dependencies node e :=
    ⟨direct, whole direct⟩
  have reached {e : String} (direct : e ∈ g.dependencies node) := behind.reaches e (closed e (edge direct))
  obtain ⟨further, gathered⟩ : ∃ further, (g.dependencies node).mapM (entry known) = .ok further := by
    cases gathered : (g.dependencies node).mapM (entry known) with
    | ok further => exact ⟨further, rfl⟩
    | error e =>
        obtain ⟨missing, direct, _, failed⟩ := Checked.exists_mapM_eq_error_iff.mp ⟨e, gathered⟩
        obtain ⟨_, here, -⟩ := reached direct
        rw [here] at failed
        cases failed
  refine ⟨_, bind_eq_ok.mpr ⟨_, filed, bind_eq_ok.mpr ⟨further, gathered, rfl⟩⟩, ?_, ?_⟩
  · rw [List.map_append, behind.ids]
    rfl
  · intro a present
    rcases List.mem_append.mp present with earlier | same
    · have apart : node ≠ a := fun equal => fresh (equal ▸ earlier)
      rw [entry_append_of_ne apart]
      exact behind.reaches a earlier
    · rw [List.mem_singleton.mp same]
      refine ⟨_, entry_append_self (by rw [behind.ids]; exact fresh), fun d => ?_⟩
      rw [List.mem_eraseDups, List.mem_append, List.mem_flatten, TransGen.head'_iff]
      constructor
      · rintro (direct | ⟨found, listed, inside⟩)
        · exact ⟨d, edge direct, .refl⟩
        · obtain ⟨e, direct, here⟩ := Checked.exists_of_mapM gathered found listed
          obtain ⟨_, again, reaches⟩ := reached direct
          rw [here] at again
          cases again
          exact ⟨e, edge direct, ((reaches d).mp inside).to_reflTransGen⟩
      · rintro ⟨e, first, rest⟩
        rcases Relation.reflTransGen_iff_eq_or_transGen.mp rest with equal | path
        · exact Or.inl (equal ▸ first.1)
        · obtain ⟨found, listed, here⟩ := Checked.exists_of_mem gathered e first.1
          obtain ⟨_, again, reaches⟩ := reached first.1
          rw [here] at again
          cases again
          exact Or.inr ⟨found, listed, (reaches d).mpr path⟩

/-- Along an order the ancestors of all nodes are gathered. -/
theorem exists_known (ordered : Ordered nodes g.dependencies order)
    (filed : ∀ a ∈ nodes, entry g.edges a = .ok (g.dependencies a))
    (whole : ∀ a ∈ nodes, g.dependencies a ⊆ nodes) :
    ∃ known, order.foldlM g.addAncestors [] = .ok known ∧ Known g nodes order known := by
  induction ordered with
  | nil => exact ⟨[], rfl, rfl, List.forall_mem_nil _⟩
  | @snoc order node before member fresh closed ih =>
      obtain ⟨known, gathered, behind⟩ := ih
      obtain ⟨more, added, all⟩ :=
        behind.add (filed node member) (whole node member) fresh closed
      refine ⟨more, ?_, all⟩
      rw [List.foldlM_append, gathered]
      exact bind_eq_ok.mpr ⟨known, rfl, bind_eq_ok.mpr ⟨more, added, rfl⟩⟩

/-! ### The graph of a workflow -/

section Built

variable {w : Workflow} (built : ofWorkflow w = .ok g) (distinct : w.Distinct)
include built distinct

theorem dependencies_of_built {s : Step} (member : s ∈ w.steps) :
    g.dependencies s.id = s.dependencies := by
  rw [dependencies, edges_of_built built, dependenciesIn_edgesOf distinct member]

theorem entry_edges_of_built {s : Step} (member : s ∈ w.steps) :
    entry g.edges s.id = .ok (g.dependencies s.id) := by
  rw [dependencies_of_built built distinct member, edges_of_built built]
  apply entry_of_mem
  · rw [edgesOf_ids distinct]
    exact distinct
  · rw [edgesOf_eq distinct]
    exact List.mem_map.mpr ⟨s, member, rfl⟩

/-- In a graph that has been built the order of levels puts every step after its dependencies. -/
theorem exists_byLevel_of_built : ∃ order, g.byLevel = .ok order ∧
    order.Perm (w.steps.map (·.id)) ∧ Ordered (w.steps.map (·.id)) g.dependencies order := by
  obtain ⟨-, _, -, same⟩ := ofWorkflow_eq_ok.mp built
  have nodes : g.nodes = w.steps.map (·.id) := by rw [same]
  have leveled : ∀ id ∈ g.nodes, g.level? id = some ((g.level? id).getD 0) := by
    intro id present
    rw [nodes] at present
    obtain ⟨s, member, rfl⟩ := List.mem_map.mp present
    obtain ⟨level, found⟩ := level?_isSome built member
    rw [found, Option.getD_some]
  obtain ⟨order, sorted, perm, rising⟩ := exists_byLevel leveled
  rw [nodes] at perm
  refine ⟨order, sorted, perm, ordered_of_rising (perm.nodup_iff.mpr distinct) (fun _ => perm.mem_iff)
    rising ?_⟩
  rintro a present d ⟨listed, -⟩
  obtain ⟨s, member, rfl⟩ := List.mem_map.mp present
  rw [dependencies_of_built built distinct member] at listed
  obtain ⟨-, -, -, low, high, below, above, lower⟩ :=
    exists_lower_of_dependsOn built distinct ⟨s, member, rfl, listed⟩
  rw [below, above]
  exact lower

/-- The ancestors can always be gathered: there is an entry for every step, and it holds what the step
depends on, directly or not. -/
theorem exists_ancestors : ∃ known, g.ancestors = .ok known ∧
    (known.map (·.1)).Perm (w.steps.map (·.id)) ∧
    ∀ s ∈ w.steps, ∃ found, entry known s.id = .ok found ∧
      ∀ d, d ∈ found ↔ TransGen w.DependsOn s.id d := by
  have sound := sound_of_built built distinct
  have edges : g.dependencies = dependenciesIn (edgesOf w) := by
    funext id
    rw [dependencies, edges_of_built built]
  obtain ⟨order, sorted, perm, ordered⟩ := exists_byLevel_of_built built distinct
  obtain ⟨known, gathered, all⟩ := exists_known ordered (fun a present => by
      obtain ⟨s, member, rfl⟩ := List.mem_map.mp present
      exact entry_edges_of_built built distinct member)
    (fun a _ b listed => by
      rw [edges] at listed
      exact ((depends_iff distinct sound).mpr ((mem_dependenciesIn_edgesOf distinct).mp listed)).2)
  refine ⟨known, by rw [ancestors, sorted]; exact gathered, all.ids ▸ perm, fun s member => ?_⟩
  obtain ⟨found, here, reaches⟩ :=
    all.reaches s.id (perm.mem_iff.mpr (List.mem_map.mpr ⟨s, member, rfl⟩))
  refine ⟨found, here, fun d => ?_⟩
  rw [reaches d, edges, depends_eq distinct sound]

/-- The ancestors of a step are what it depends on, directly or not. -/
theorem mem_ancestors {known : List (String × List String)} (gathered : g.ancestors = .ok known)
    {s : Step} (member : s ∈ w.steps) {d : String} :
    d ∈ dependenciesIn known s.id ↔ TransGen w.DependsOn s.id d := by
  obtain ⟨_, again, -, all⟩ := exists_ancestors built distinct
  rw [gathered] at again
  cases again
  obtain ⟨found, here, reaches⟩ := all s member
  rw [dependenciesIn_of_entry here, reaches]

end Built

end Stepwise.DependencyGraph
