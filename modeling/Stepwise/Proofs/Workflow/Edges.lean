import Stepwise.Proofs.Graph.Walk
import Stepwise.Proofs.Lookup
import Stepwise.Workflow.Graph

/-!
The dependencies of a workflow whose steps have distinct ids, as a relation between ids, and what the
edges of its graph say of them.
-/

namespace Stepwise

namespace Workflow

/-- No two steps share an id. -/
def Distinct (w : Workflow) : Prop := (w.steps.map (·.id)).Nodup

/-- A step of the first id lists the second as a dependency. -/
def DependsOn (w : Workflow) (a b : String) : Prop := ∃ s ∈ w.steps, s.id = a ∧ b ∈ s.dependencies

/-- A step lists a dependency that is the id of no step. -/
def Dangles (w : Workflow) (s : Step) (d : String) : Prop :=
  s ∈ w.steps ∧ d ∈ s.dependencies ∧ ∀ t ∈ w.steps, t.id ≠ d

variable {w : Workflow}

theorem Distinct.eq_of_id (distinct : w.Distinct) {s t : Step} (left : s ∈ w.steps)
    (right : t ∈ w.steps) (same : s.id = t.id) : s = t :=
  List.inj_on_of_nodup_map distinct left right same

end Workflow

namespace DependencyGraph

open Stepwise.Graph (Depends)

variable {w : Workflow}

/-! ### Edges -/

theorem dependenciesIn_of_mem {edges : List (String × List String)}
    (distinct : (edges.map (·.1)).Nodup) {id : String} {dependencies : List String}
    (member : (id, dependencies) ∈ edges) : dependenciesIn edges id = dependencies := by
  rw [dependenciesIn, Lookup.find?_of_mem distinct member]
  rfl

theorem dependenciesIn_of_not_mem {edges : List (String × List String)} {id : String}
    (absent : id ∉ edges.map (·.1)) : dependenciesIn edges id = [] := by
  rw [dependenciesIn, Lookup.find?_of_not_mem absent]
  rfl

private theorem foldl_fileEdges {steps : List Step} {edges : List (String × List String)}
    (distinct : (edges.map (·.1) ++ steps.map (·.id)).Nodup) :
    steps.foldl (fun filed s => fileEdges filed s.id s.dependencies) edges =
      edges ++ steps.map fun s => (s.id, s.dependencies) := by
  induction steps generalizing edges with
  | nil => simp
  | cons s rest ih =>
      have fresh : edges.any (·.1 == s.id) = false := by
        rw [List.any_eq_false]
        intro edge present same
        exact List.disjoint_of_nodup_append distinct (List.mem_map.mpr ⟨edge, present, rfl⟩)
          (by rw [eq_of_beq same]; exact List.mem_cons_self)
      have filed : fileEdges edges s.id s.dependencies = edges ++ [(s.id, s.dependencies)] := by
        rw [fileEdges, fresh]
        rfl
      rw [List.foldl_cons, filed, ih (by simpa using distinct)]
      simp

/-- Every step has an edge to each of its dependencies, in the order of the workflow. -/
theorem edgesOf_eq (distinct : w.Distinct) :
    edgesOf w = w.steps.map fun s => (s.id, s.dependencies) := by
  have filed := @foldl_fileEdges w.steps [] distinct
  exact filed

theorem edgesOf_ids (distinct : w.Distinct) : (edgesOf w).map (·.1) = w.steps.map (·.id) := by
  rw [edgesOf_eq distinct, List.map_map]
  rfl

theorem dependenciesIn_edgesOf (distinct : w.Distinct) {s : Step} (member : s ∈ w.steps) :
    dependenciesIn (edgesOf w) s.id = s.dependencies := by
  apply dependenciesIn_of_mem
  · rw [edgesOf_ids distinct]
    exact distinct
  · rw [edgesOf_eq distinct]
    exact List.mem_map.mpr ⟨s, member, rfl⟩

theorem mem_dependenciesIn_edgesOf (distinct : w.Distinct) {a b : String} :
    b ∈ dependenciesIn (edgesOf w) a ↔ w.DependsOn a b := by
  constructor
  · intro listed
    by_cases known : a ∈ w.steps.map (·.id)
    · obtain ⟨s, member, rfl⟩ := List.mem_map.mp known
      rw [dependenciesIn_edgesOf distinct member] at listed
      exact ⟨s, member, rfl, listed⟩
    · rw [dependenciesIn_of_not_mem (by rwa [edgesOf_ids distinct])] at listed
      cases listed
  · rintro ⟨s, member, rfl, listed⟩
    rwa [dependenciesIn_edgesOf distinct member]

/-! ### Dangling dependencies -/

/-- What is found to dangle does so. -/
theorem dangles_of_dangling? (distinct : w.Distinct) {id d : String}
    (found : dangling? (edgesOf w) = some (id, d)) : ∃ s, s.id = id ∧ w.Dangles s d := by
  obtain ⟨edge, present, inEdge⟩ := List.exists_of_findSome?_eq_some found
  obtain ⟨missing, atEdge, same⟩ := Option.map_eq_some_iff.mp inEdge
  cases same
  rw [edgesOf_eq distinct] at present
  obtain ⟨s, member, rfl⟩ := List.mem_map.mp present
  refine ⟨s, rfl, member, List.mem_of_find?_eq_some atEdge, ?_⟩
  intro t other same
  have unknown := List.find?_some atEdge
  simp only [edgesOf_eq distinct, List.any_map, Bool.not_eq_true', List.any_eq_false] at unknown
  exact unknown t other (by simp [same])

theorem dangling?_eq_none_iff (distinct : w.Distinct) :
    dangling? (edgesOf w) = none ↔ ¬∃ s d, w.Dangles s d := by
  constructor
  · rintro missing ⟨s, d, member, listed, unknown⟩
    have none := List.findSome?_eq_none_iff.mp missing (s.id, s.dependencies)
      (by rw [edgesOf_eq distinct]; exact List.mem_map.mpr ⟨s, member, rfl⟩)
    have known := List.find?_eq_none.mp (Option.map_eq_none_iff.mp none) d listed
    simp only [edgesOf_eq distinct, List.any_map, Bool.not_eq_true, Bool.not_eq_false',
      List.any_eq_true] at known
    obtain ⟨t, present, same⟩ := known
    exact unknown t present (by simpa using same)
  · intro sound
    cases found : dangling? (edgesOf w) with
    | none => rfl
    | some pair =>
        obtain ⟨id, d⟩ := pair
        obtain ⟨s, -, dangles⟩ := dangles_of_dangling? distinct found
        exact absurd ⟨s, d, dangles⟩ sound

/-! ### The relation that a walk follows -/

theorem dependsOn_of_depends (distinct : w.Distinct) {a b : String}
    (edge : Depends (w.steps.map (·.id)) (dependenciesIn (edgesOf w)) a b) : w.DependsOn a b :=
  (mem_dependenciesIn_edgesOf distinct).mp edge.1

/-- Where nothing dangles the walk follows all dependencies. -/
theorem depends_iff (distinct : w.Distinct) (sound : ¬∃ s d, w.Dangles s d) {a b : String} :
    Depends (w.steps.map (·.id)) (dependenciesIn (edgesOf w)) a b ↔ w.DependsOn a b := by
  constructor
  · exact dependsOn_of_depends distinct
  · rintro ⟨s, member, same, listed⟩
    refine ⟨(mem_dependenciesIn_edgesOf distinct).mpr ⟨s, member, same, listed⟩, ?_⟩
    by_contra unknown
    exact sound ⟨s, b, member, listed,
      fun t present equal => unknown (List.mem_map.mpr ⟨t, present, equal⟩)⟩

theorem depends_eq (distinct : w.Distinct) (sound : ¬∃ s d, w.Dangles s d) :
    Depends (w.steps.map (·.id)) (dependenciesIn (edgesOf w)) = w.DependsOn := by
  funext a b
  exact propext (depends_iff distinct sound)

end DependencyGraph

end Stepwise
