import Mathlib.Data.List.Induction
import Mathlib.Logic.Relation
import Stepwise.Graph.Walk

/-!
What a walk finds. It ends with all nodes, each after its dependencies, exactly when no node depends
on itself; the dependency that it otherwise stops at lies on a cycle.
-/

namespace Stepwise.Graph

open Relation (TransGen ReflTransGen)

variable {nodes : List String} {dependencies : String → List String}

/-- The second id is a node that the first depends on. -/
def Depends (nodes : List String) (dependencies : String → List String) (a b : String) : Prop :=
  b ∈ dependencies a ∧ b ∈ nodes

/-- Nodes that stand once each, and after all that they depend on. -/
inductive Ordered (nodes : List String) (dependencies : String → List String) :
    List String → Prop where
  | nil : Ordered nodes dependencies []
  | snoc {order : List String} {node : String} (before : Ordered nodes dependencies order)
      (member : node ∈ nodes) (fresh : node ∉ order)
      (closed : ∀ d, Depends nodes dependencies node d → d ∈ order) :
      Ordered nodes dependencies (order ++ [node])

/-! ### Orders -/

namespace Ordered

variable {order : List String}

theorem subset (ordered : Ordered nodes dependencies order) : order ⊆ nodes := by
  induction ordered with
  | nil => exact List.nil_subset nodes
  | snoc before member fresh closed ih =>
      intro node present
      rcases List.mem_append.mp present with earlier | last
      · exact ih earlier
      · rw [List.mem_singleton.mp last]
        exact member

theorem nodup (ordered : Ordered nodes dependencies order) : order.Nodup := by
  induction ordered with
  | nil => exact List.nodup_nil
  | @snoc order node before member fresh closed ih =>
      rw [List.nodup_append]
      refine ⟨ih, List.pairwise_singleton _ node, ?_⟩
      intro earlier present last same equal
      rw [List.mem_singleton.mp same] at equal
      exact fresh (equal ▸ present)

theorem closed (ordered : Ordered nodes dependencies order) {node d : String}
    (present : node ∈ order) (edge : Depends nodes dependencies node d) : d ∈ order := by
  induction ordered with
  | nil => cases present
  | snoc before member fresh closed ih =>
      apply List.mem_append_left
      rcases List.mem_append.mp present with earlier | last
      · exact ih earlier
      · rw [List.mem_singleton.mp last] at edge
        exact closed d edge

theorem closed_trans (ordered : Ordered nodes dependencies order) {node d : String}
    (present : node ∈ order) (path : TransGen (Depends nodes dependencies) node d) : d ∈ order := by
  induction path with
  | single edge => exact ordered.closed present edge
  | tail _ edge ih => exact ordered.closed ih edge

/-- What a node depends on stands before it. -/
theorem before (ordered : Ordered nodes dependencies order) {front back : List String}
    {node d : String} (split : order = front ++ node :: back)
    (edge : Depends nodes dependencies node d) : d ∈ front := by
  induction ordered generalizing back with
  | nil => exact absurd split.symm (by simp)
  | @snoc order last before member fresh closed ih =>
      rcases List.eq_nil_or_concat back with rfl | ⟨rest, final, rfl⟩
      · obtain ⟨rfl, same⟩ := List.append_inj' split rfl
        cases same
        exact closed d edge
      · rw [List.concat_eq_append, ← List.cons_append, ← List.append_assoc] at split
        obtain ⟨rfl, -⟩ := List.append_inj' split rfl
        exact ih rfl

/-- Nodes that stand after all that they depend on are in order. -/
theorem of_before (distinct : order.Nodup) (inside : order ⊆ nodes)
    (before : ∀ front node back, order = front ++ node :: back →
      ∀ d, Depends nodes dependencies node d → d ∈ front) : Ordered nodes dependencies order := by
  induction order using List.reverseRecOn with
  | nil => exact .nil
  | append_singleton front last ih =>
      have parts := List.nodup_append.mp distinct
      refine .snoc (ih parts.1 ?_ ?_) (inside (List.mem_append_right _ List.mem_cons_self)) ?_ ?_
      · exact fun node earlier => inside (List.mem_append_left _ earlier)
      · intro start node back split d edge
        exact before start node (back ++ [last]) (by rw [split, List.append_assoc]; rfl) d edge
      · exact fun again => parts.2.2 last again last List.mem_cons_self rfl
      · exact fun d edge => before front last [] rfl d edge

/-- No node of an order depends on itself, however indirectly. -/
theorem acyclic (ordered : Ordered nodes dependencies order) {node : String}
    (present : node ∈ order) : ¬TransGen (Depends nodes dependencies) node node := by
  induction ordered with
  | nil => cases present
  | @snoc order last before member fresh closed ih =>
      intro cycle
      rcases List.mem_append.mp present with earlier | same
      · exact ih earlier cycle
      · rw [List.mem_singleton.mp same] at cycle
        -- The first dependency on the cycle stands before the node, and with it the whole cycle.
        obtain ⟨d, edge, back⟩ := TransGen.head'_iff.mp cycle
        rcases Relation.reflTransGen_iff_eq_or_transGen.mp back with equal | path
        · exact fresh (equal ▸ closed d edge)
        · exact fresh (before.closed_trans (closed d edge) path)

end Ordered

/-! ### Walks -/

/-- A walk that gets through keeps the order, adds all nodes that were left to visit and nothing of
the path that leads to them. -/
theorem walkFrom_ok {path rest done order : List String} {node : String}
    (walked : walkFrom nodes dependencies path node rest done = .ok order)
    (ordered : Ordered nodes dependencies done) (apart : ∀ n ∈ path, n ∉ done) :
    Ordered nodes dependencies order ∧ (∀ n ∈ path, n ∉ order) ∧ done ⊆ order ∧
      ∀ n ∈ rest, n ∈ nodes → n ∈ order := by
  fun_induction walkFrom nodes dependencies path node rest done generalizing order with
  | case1 path node done =>
      cases walked
      exact ⟨ordered, apart, List.Subset.refl done, fun n absent => nomatch absent⟩
  | case2 path node next rest done visited ih =>
      obtain ⟨result, fresh, kept, reached⟩ := ih walked ordered apart
      refine ⟨result, fresh, kept, ?_⟩
      intro n present member
      rcases List.mem_cons.mp present with same | later
      · rw [same]
        exact kept (List.contains_iff_mem.mp visited)
      · exact reached n later member
  | case3 path node next rest done unvisited onPath => cases walked
  | case4 path node next rest done unvisited offPath member smaller cycle failed ih =>
      cases walked
  | case5 path node next rest done unvisited offPath member smaller inner found ihInner ihRest =>
      have outside : next ∉ path := fun present => offPath (List.contains_iff_mem.mpr present)
      -- Nothing on the path has been visited: so the dependency, which is behind all of its own
      -- dependencies by now, is new to the order.
      have below : ∀ n ∈ next :: path, n ∉ done := by
        intro n present
        rcases List.mem_cons.mp present with same | onPath
        · rw [same]
          exact fun visited => unvisited (List.contains_iff_mem.mpr visited)
        · exact apart n onPath
      obtain ⟨inOrder, freshInner, keptInner, reachedInner⟩ := ihInner found ordered below
      have extended : Ordered nodes dependencies (inner ++ [next]) :=
        .snoc inOrder member (freshInner next List.mem_cons_self)
          (fun d edge => reachedInner d edge.1 edge.2)
      have above : ∀ n ∈ path, n ∉ inner ++ [next] := by
        intro n onPath present
        rcases List.mem_append.mp present with earlier | last
        · exact freshInner n (List.mem_cons_of_mem next onPath) earlier
        · exact outside (List.mem_singleton.mp last ▸ onPath)
      obtain ⟨result, fresh, kept, reached⟩ := ihRest walked extended above
      refine ⟨result, fresh, ?_, ?_⟩
      · intro n present
        exact kept (List.mem_append_left [next] (keptInner present))
      · intro n present inNodes
        rcases List.mem_cons.mp present with same | later
        · rw [same]
          exact kept (List.mem_append_right inner List.mem_cons_self)
        · exact reached n later inNodes
  | case6 path node next rest done unvisited offPath outside ih =>
      obtain ⟨result, fresh, kept, reached⟩ := ih walked ordered apart
      refine ⟨result, fresh, kept, ?_⟩
      intro n present member
      rcases List.mem_cons.mp present with same | later
      · exact absurd (same ▸ member) outside
      · exact reached n later member

/-- Where every node of the path leads to all that is left to visit, the dependency that a walk stops
at leads back to itself. -/
theorem walkFrom_error {path rest done : List String} {node : String} {cycle : Cycle}
    (walked : walkFrom nodes dependencies path node rest done = .error cycle)
    (inside : path ⊆ nodes)
    (leads : ∀ p ∈ path, ∀ n ∈ rest, n ∈ nodes → TransGen (Depends nodes dependencies) p n) :
    TransGen (Depends nodes dependencies) cycle.back cycle.back := by
  fun_induction walkFrom nodes dependencies path node rest done with
  | case1 path node done => cases walked
  | case2 path node next rest done visited ih =>
      exact ih walked inside (fun p onPath n later => leads p onPath n (List.mem_cons_of_mem _ later))
  | case3 path node next rest done unvisited onPath =>
      cases walked
      -- The path leads to all that is left, and the dependency is on it.
      have present : next ∈ path := List.contains_iff_mem.mp onPath
      exact leads next present next List.mem_cons_self (inside present)
  | case4 path node next rest done unvisited offPath member smaller cycle failed ih =>
      cases walked
      apply ih failed (List.cons_subset.mpr ⟨member, inside⟩)
      intro p onPath n dependency inNodes
      rcases List.mem_cons.mp onPath with same | above
      · rw [same]
        exact .single ⟨dependency, inNodes⟩
      · exact (leads p above next List.mem_cons_self member).tail ⟨dependency, inNodes⟩
  | case5 path node next rest done unvisited offPath member smaller inner found ihInner ihRest =>
      exact ihRest walked inside
        (fun p onPath n later => leads p onPath n (List.mem_cons_of_mem _ later))
  | case6 path node next rest done unvisited offPath outside ih =>
      exact ih walked inside (fun p onPath n later => leads p onPath n (List.mem_cons_of_mem _ later))

theorem walk_ok {order : List String} (walked : walk nodes dependencies = .ok order) :
    Ordered nodes dependencies order ∧ ∀ n, n ∈ order ↔ n ∈ nodes := by
  obtain ⟨ordered, -, -, reached⟩ := walkFrom_ok walked .nil (fun n absent => nomatch absent)
  exact ⟨ordered, fun n => ⟨fun present => ordered.subset present,
    fun member => reached n member member⟩⟩

theorem walk_error {cycle : Cycle} (walked : walk nodes dependencies = .error cycle) :
    TransGen (Depends nodes dependencies) cycle.back cycle.back :=
  walkFrom_error walked (List.nil_subset nodes) (fun _ absent => nomatch absent)

theorem walkFrom_of_subset {path rest done : List String} {node : String} (visited : rest ⊆ done) :
    walkFrom nodes dependencies path node rest done = .ok done := by
  induction rest with
  | nil => rw [walkFrom]
  | cons next rest ih =>
      obtain ⟨here, later⟩ := List.cons_subset.mp visited
      rw [walkFrom, if_pos (List.contains_iff_mem.mpr here)]
      exact ih later

/-- Nodes that stand in an order are walked in this order. -/
theorem walk_of_ordered (ordered : Ordered nodes dependencies nodes)
    (inside : ∀ n ∈ nodes, dependencies n ⊆ nodes) : walk nodes dependencies = .ok nodes := by
  have onward (rest done : List String) (split : nodes = done ++ rest) :
      walkFrom nodes dependencies [] "" rest done = .ok nodes := by
    induction rest generalizing done with
    | nil => rw [walkFrom, split, List.append_nil]
    | cons next rest ih =>
        have member : next ∈ nodes := split ▸ List.mem_append_right done List.mem_cons_self
        have fresh : next ∉ done := by
          have apart := ordered.nodup
          rw [split, List.nodup_append] at apart
          exact fun visited => apart.2.2 next visited next List.mem_cons_self rfl
        have below : dependencies next ⊆ done := fun d listed =>
          ordered.before split ⟨listed, inside next member listed⟩
        rw [walkFrom, if_neg (fun visited => fresh (List.contains_iff_mem.mp visited)),
          dif_neg (by simp), dif_pos member, walkFrom_of_subset below]
        exact ih (done ++ [next]) (by rw [split, List.append_assoc, List.singleton_append])
  exact onward nodes [] rfl

/-- A walk stops exactly where some node depends on itself. -/
theorem walk_error_iff :
    (∃ cycle, walk nodes dependencies = .error cycle) ↔
      ∃ n, TransGen (Depends nodes dependencies) n n := by
  constructor
  · rintro ⟨cycle, walked⟩
    exact ⟨cycle.back, walk_error walked⟩
  · rintro ⟨n, cycle⟩
    cases walked : walk nodes dependencies with
    | error found => exact ⟨found, rfl⟩
    | ok order =>
        obtain ⟨ordered, complete⟩ := walk_ok walked
        obtain ⟨_, _, edge⟩ := TransGen.tail'_iff.mp cycle
        exact absurd cycle (ordered.acyclic ((complete n).mpr edge.2))

end Stepwise.Graph
