import Mathlib.Data.List.Nodup
import Mathlib.Data.List.Perm.Basic
import Stepwise.Proofs.Canvas.Connections
import Stepwise.Proofs.Graph.Scan
import Stepwise.Proofs.Graph.Walk

/-!
Which canvases can be compiled, and what they are compiled into: one step for each node, each after the
steps of the nodes that flow into its node, and in the order of the canvas where that is such an order.
-/

namespace Stepwise.Canvas

open Stepwise.Graph (Depends Ordered Loop Scan)
open Relation (TransGen)
open DependencyMap

/-- Nothing is wrong with the canvas. -/
structure WellFormed (nodes : List Node) : Prop where
  some : nodes ≠ []
  distinct : (nodes.map (·.id)).Nodup
  leads : Leads (nodes.map (·.id)) nodes
  acyclic : ¬∃ id, TransGen (Connects nodes) id id
  known : ∀ n ∈ nodes, ∀ id, n.endpoint = .some id → id ≠ "" → ∃ e ∈ Catalog.endpoints, e.id = id

/-- Every node stands after those that connect to it. -/
def DeclaredFirst (nodes : List Node) : Prop :=
  ∀ front n back, nodes = front ++ n :: back → sources nodes n.id ⊆ front.map (·.id)

variable {nodes : List Node}

/-! ### Endpoints -/

/-- The endpoint that a node selects. -/
def selected (n : Node) : Option Endpoint := n.endpoint.bind Catalog.endpoint?

theorem endpoint?_eq_some_iff {id : String} :
    (∃ e, Catalog.endpoint? id = some e) ↔ ∃ e ∈ Catalog.endpoints, e.id = id := by
  rw [← Option.isSome_iff_exists, Catalog.endpoint?, List.find?_isSome]
  simp only [beq_iff_eq]

theorem endpointOf_of_known {n : Node}
    (known : ∀ id, n.endpoint = some id → id ≠ "" → ∃ e ∈ Catalog.endpoints, e.id = id) :
    endpointOf n = .ok (selected n) := by
  unfold endpointOf selected
  split
  · rename_i none
    rw [none]
    rfl
  · rename_i blank
    rw [blank]
    rfl
  · rename_i id filled given
    obtain ⟨e, found⟩ := endpoint?_eq_some_iff.mpr (known id given filled)
    rw [given, found, Option.bind_some, found]

theorem endpointOf_of_unknown {n : Node} {id : String} (given : n.endpoint = some id)
    (filled : id ≠ "") (unknown : ¬∃ e ∈ Catalog.endpoints, e.id = id) :
    endpointOf n = .error (.unknownEndpoint id) := by
  have none : Catalog.endpoint? id = none := by
    rw [Option.eq_none_iff_forall_ne_some]
    exact fun e found => unknown (endpoint?_eq_some_iff.mp ⟨e, found⟩)
  unfold endpointOf
  split
  · rename_i absent
    rw [given] at absent
    cases absent
  · rename_i blank
    rw [given] at blank
    cases blank
    exact absurd rfl filled
  · rename_i other _ same
    rw [given] at same
    cases same
    rw [none]

theorem endpointsOf_of_known
    (known : ∀ n ∈ nodes, ∀ id, n.endpoint = some id → id ≠ "" → ∃ e ∈ Catalog.endpoints, e.id = id) :
    endpointsOf nodes = .ok (nodes.map fun n => (n.id, selected n)) := by
  induction nodes with
  | nil => rfl
  | cons n rest ih =>
      obtain ⟨here, later⟩ := List.forall_mem_cons.mp known
      rw [endpointsOf, endpointOf_of_known here, ih later]
      rfl

theorem endpointsOf_of_unknown {n : Node} {id : String} (member : n ∈ nodes)
    (given : n.endpoint = some id) (filled : id ≠ "")
    (unknown : ¬∃ e ∈ Catalog.endpoints, e.id = id) : ∃ e, endpointsOf nodes = .error e := by
  induction nodes with
  | nil => cases member
  | cons first rest ih =>
      rw [endpointsOf]
      cases here : endpointOf first with
      | error e => exact ⟨e, rfl⟩
      | ok found =>
          rcases List.mem_cons.mp member with rfl | later
          · rw [endpointOf_of_unknown given filled unknown] at here
            cases here
          · obtain ⟨e, failed⟩ := ih later
            rw [failed]
            exact ⟨e, rfl⟩

/-- The endpoint that the node of an id selects. -/
def endpointAt (nodes : List Node) (id : String) : Option Endpoint :=
  (nodes.find? (·.id == id)).bind selected

/-! ### The order of the steps -/

theorem dependenciesOf_sources (leads : Leads (nodes.map (·.id)) nodes) :
    dependenciesOf (tabulate (nodes.map (·.id)) (sources nodes)) = sources nodes := by
  funext id
  by_cases known : id ∈ nodes.map (·.id)
  · exact dependenciesOf_tabulate known
  · have missing : sources nodes id = [] := by
      rw [List.eq_nil_iff_forall_not_mem]
      intro a flows
      obtain ⟨n, member, -, listed⟩ := mem_sources.mp flows
      exact known (leads n member listed)
    have unfiled : id ∉ (tabulate (nodes.map (·.id)) (sources nodes)).map (·.1) := by
      rw [tabulate, List.map_map]
      exact fun filed => known (by simpa using filed)
    rw [dependenciesOf, Lookup.find?_of_not_mem unfiled, missing]
    rfl

theorem depends_sources {a b : String} :
    Depends (nodes.map (·.id)) (sources nodes) a b ↔ Connects nodes b a := by
  rw [Depends, mem_sources]
  constructor
  · exact fun edge => edge.1
  · rintro ⟨n, member, same, listed⟩
    exact ⟨⟨n, member, same, listed⟩, List.mem_map.mpr ⟨n, member, same⟩⟩

theorem transGen_depends_sources {a b : String} :
    TransGen (Depends (nodes.map (·.id)) (sources nodes)) a b ↔ TransGen (Connects nodes) b a := by
  have swapped : Depends (nodes.map (·.id)) (sources nodes) = Function.swap (Connects nodes) := by
    funext a b
    exact propext depends_sources
  rw [swapped, Relation.transGen_swap]

theorem ordered_of_declaredFirst (distinct : (nodes.map (·.id)).Nodup) (first : DeclaredFirst nodes) :
    Ordered (nodes.map (·.id)) (sources nodes) (nodes.map (·.id)) := by
  apply Ordered.of_before distinct (List.Subset.refl _)
  intro front id back split d edge
  obtain ⟨before, rest, whole, rfl, tail⟩ := List.map_eq_append_iff.mp split
  obtain ⟨n, after, rfl, rfl, -⟩ := List.map_eq_cons_iff.mp tail
  exact first before n after whole edge.1

theorem walk_of_declaredFirst (distinct : (nodes.map (·.id)).Nodup) (first : DeclaredFirst nodes) :
    Graph.walk (nodes.map (·.id)) (sources nodes) = .ok (nodes.map (·.id)) := by
  apply Graph.walk_of_ordered (ordered_of_declaredFirst distinct first)
  intro id _ a flows
  obtain ⟨n, member, same, -⟩ := mem_sources.mp flows
  exact List.mem_map.mpr ⟨n, member, same⟩

theorem acyclic_of_declaredFirst (distinct : (nodes.map (·.id)).Nodup) (first : DeclaredFirst nodes) :
    ¬∃ id, TransGen (Connects nodes) id id := by
  rintro ⟨id, cycle⟩
  obtain ⟨found, failed⟩ := Graph.walk_error_iff.mpr ⟨id, transGen_depends_sources.mpr cycle⟩
  rw [walk_of_declaredFirst distinct first] at failed
  cases failed

/-- The nodes of ids that are those of a canvas in another order. -/
theorem filterMap_find?_perm (distinct : (nodes.map (·.id)).Nodup) {ids : List String}
    (perm : ids.Perm (nodes.map (·.id))) :
    (ids.filterMap fun id => nodes.find? (·.id == id)).Perm nodes ∧
      (ids.filterMap fun id => nodes.find? (·.id == id)).map (·.id) = ids := by
  have whole : ((nodes.map (·.id)).filterMap fun id => nodes.find? (·.id == id)) = nodes := by
    rw [List.filterMap_map]
    have found : nodes.filterMap ((fun id => nodes.find? (·.id == id)) ∘ (·.id)) =
        nodes.filterMap some :=
      List.filterMap_congr fun n member => Lookup.find?_of_mem distinct member
    rw [found, List.filterMap_some]
  constructor
  · have moved := perm.filterMap fun id => nodes.find? (·.id == id)
    rwa [whole] at moved
  · have known : ids ⊆ nodes.map (·.id) := perm.subset
    clear perm whole
    induction ids with
    | nil => rfl
    | cons id rest ih =>
        obtain ⟨here, later⟩ := List.cons_subset.mp known
        obtain ⟨n, member, rfl⟩ := List.mem_map.mp here
        rw [List.filterMap_cons, Lookup.find?_of_mem distinct member, List.map_cons, ih later]

/-! ### Compilation -/

/-- The step of a node: its dependencies are the nodes that connect to it. -/
def stepIn (nodes : List Node) (n : Node) : Step :=
  (stepOf (endpointAt nodes) n (sources nodes n.id)).1

/-- What is noted of a node. -/
def remarksIn (nodes : List Node) (n : Node) : List Wiring.Remark :=
  (stepOf (endpointAt nodes) n (sources nodes n.id)).2

/-- The workflow of nodes that are put in order. -/
def workflowOf (nodes order : List Node) (name : String) (description : Option String) : Workflow :=
  { id := Naming.slug name
    name
    description := match description with
      | some d => if d = "" then defaultDescription nodes.length else d
      | none => defaultDescription nodes.length
    steps := order.map (stepIn nodes)
    triggers := [{}] }

section Steps

variable {order : List Node} {name : String} {description : Option String}

theorem ids_workflowOf :
    (workflowOf nodes order name description).steps.map (·.id) = order.map (·.id) := by
  show (order.map (stepIn nodes)).map (·.id) = _
  rw [List.map_map]
  rfl

theorem mem_workflowOf (perm : order.Perm nodes) {s : Step} :
    s ∈ (workflowOf nodes order name description).steps ↔ ∃ n ∈ nodes, stepIn nodes n = s := by
  show s ∈ order.map (stepIn nodes) ↔ _
  simp only [List.mem_map, perm.mem_iff]

end Steps

/-- What is noted of a canvas whose nodes are put in order. -/
def remarksOf (strict : Bool) (nodes order : List Node) : List Wiring.Remark :=
  (if strict then orphanRemarks nodes (tabulate (nodes.map (·.id)) (sources nodes)) else []) ++
    order.flatMap (remarksIn nodes)

theorem assemble_eq (leads : Leads (nodes.map (·.id)) nodes) (ids : List String)
    (name : String) (description : Option String) :
    assemble nodes (tabulate (nodes.map (·.id)) (sources nodes))
        (nodes.map fun n => (n.id, selected n)) ids name description =
      (workflowOf nodes (ids.filterMap fun id => nodes.find? (·.id == id)) name description,
        (ids.filterMap fun id => nodes.find? (·.id == id)).flatMap (remarksIn nodes)) := by
  have lookup : (fun id => (((nodes.map fun n => (n.id, selected n)).find? (·.1 == id)).map
      (·.2)).getD none) = endpointAt nodes := by
    funext id
    rw [List.find?_map, endpointAt, Option.map_map]
    show ((nodes.find? (·.id == id)).map selected).getD none = _
    cases nodes.find? (·.id == id) <;> rfl
  simp only [assemble, dependenciesOf_sources leads, lookup, workflowOf, List.map_map,
    List.flatMap_map]
  rfl

variable {name : String} {description : Option String}

/-- A canvas on which nothing is wrong is compiled, with its nodes in an order. -/
theorem exists_compiled (sound : WellFormed nodes) : ∃ order : List Node,
    Graph.walk (nodes.map (·.id)) (sources nodes) = .ok (order.map (·.id)) ∧ order.Perm nodes ∧
      Ordered (nodes.map (·.id)) (sources nodes) (order.map (·.id)) ∧
      ∀ strict, compile strict nodes name description =
        ⟨.ok (workflowOf nodes order name description), remarksOf strict nodes order⟩ := by
  cases walked : Graph.walk (nodes.map (·.id)) (sources nodes) with
  | error cycle =>
      have back := Graph.walk_error walked
      exact absurd ⟨_, transGen_depends_sources.mp back⟩ sound.acyclic
  | ok ids =>
      obtain ⟨ordered, complete⟩ := Graph.walk_ok walked
      have perm : ids.Perm (nodes.map (·.id)) :=
        (List.perm_ext_iff_of_nodup ordered.nodup sound.distinct).mpr complete
      obtain ⟨chosen, same⟩ := filterMap_find?_perm sound.distinct perm
      refine ⟨_, by rw [same], chosen, by rw [same]; exact ordered, ?_⟩
      intro strict
      have some : nodes.isEmpty = false :=
        Bool.eq_false_iff.mpr fun none => sound.some (List.isEmpty_iff.mp none)
      have distinct : (!distinctIds nodes) = false := by
        rw [distinctIds_iff.mpr sound.distinct]
        rfl
      have mapped := dependencyMap_of_leads sound.distinct sound.leads
      have inOrder : order nodes (tabulate (nodes.map (·.id)) (sources nodes)) = .ok ids := by
        rw [order, dependenciesOf_sources sound.leads, walked]
      simp only [compile, some, distinct, mapped, inOrder, endpointsOf_of_known sound.known,
        assemble_eq sound.leads, Bool.false_eq_true, if_false, remarksOf]

theorem exists_result (sound : WellFormed nodes) : ∃ order : List Node,
    Graph.walk (nodes.map (·.id)) (sources nodes) = .ok (order.map (·.id)) ∧ order.Perm nodes ∧
      Ordered (nodes.map (·.id)) (sources nodes) (order.map (·.id)) ∧
      ∀ strict, (compile strict nodes name description).result =
        .ok (workflowOf nodes order name description) := by
  obtain ⟨order, walked, perm, ordered, compiled⟩ :=
    @exists_compiled nodes name description sound
  exact ⟨order, walked, perm, ordered, fun strict => congrArg Compiled.result (compiled strict)⟩

/-- Any other canvas is refused. -/
theorem exists_error (unsound : ¬WellFormed nodes) (strict : Bool) :
    ∃ e, (compile strict nodes name description).result = .error e := by
  rw [compile]
  by_cases none : nodes.isEmpty = true
  · exact ⟨.empty, by rw [if_pos none]⟩
  rw [if_neg none]
  by_cases again : (!distinctIds nodes) = true
  · exact ⟨.duplicateIds, by rw [if_pos again]⟩
  rw [if_neg again]
  have distinct : (nodes.map (·.id)).Nodup := by
    rw [← distinctIds_iff]
    simpa using again
  by_cases leads : Leads (nodes.map (·.id)) nodes
  · rw [dependencyMap_of_leads distinct leads]
    simp only [order, dependenciesOf_sources leads]
    cases walked : Graph.walk (nodes.map (·.id)) (sources nodes) with
    | error cycle =>
        cases strict with
        | true => exact ⟨.cycle cycle.node cycle.back, rfl⟩
        | false =>
            cases endpointsOf nodes with
            | error e => exact ⟨e, rfl⟩
            | ok endpoints => exact ⟨.cycleAt cycle.back, rfl⟩
    | ok ids =>
        -- The nodes can be put in order, so what is wrong is an endpoint.
        have acyclic : ¬∃ id, TransGen (Connects nodes) id id := by
          rintro ⟨id, cycle⟩
          obtain ⟨_, failed⟩ := Graph.walk_error_iff.mpr ⟨id, transGen_depends_sources.mpr cycle⟩
          rw [walked] at failed
          cases failed
        have unknown : ∃ n ∈ nodes, ∃ id, n.endpoint = some id ∧ id ≠ "" ∧
            ¬∃ e ∈ Catalog.endpoints, e.id = id := by
          by_contra every
          push Not at every
          exact unsound ⟨fun empty => none (List.isEmpty_iff.mpr empty), distinct, leads, acyclic, every⟩
        obtain ⟨n, member, id, given, filled, missing⟩ := unknown
        obtain ⟨e, failed⟩ := endpointsOf_of_unknown member given filled missing
        rw [failed]
        cases strict <;> exact ⟨e, rfl⟩
  · obtain ⟨e, failed⟩ := dependencyMap_of_unknown distinct leads
    rw [failed]
    exact ⟨e, rfl⟩

/-- What is compiled is a canvas on which nothing is wrong. -/
theorem wellFormed_of_result {strict : Bool} {w : Workflow}
    (compiled : (compile strict nodes name description).result = .ok w) : WellFormed nodes := by
  by_contra unsound
  obtain ⟨e, failed⟩ := @exists_error nodes name description unsound strict
  rw [compiled] at failed
  cases failed

theorem exists_order_of_result {strict : Bool} {w : Workflow}
    (compiled : (compile strict nodes name description).result = .ok w) :
    ∃ order : List Node, order.Perm nodes ∧ w = workflowOf nodes order name description := by
  obtain ⟨order, -, perm, -, results⟩ :=
    @exists_result nodes name description (wellFormed_of_result compiled)
  rw [results strict] at compiled
  obtain rfl := Except.ok.inj compiled
  exact ⟨order, perm, rfl⟩

/-- A canvas is compiled exactly where it has nodes, with ids of their own, whose connections lead to
nodes and close no cycle and whose endpoints are known; it is refused otherwise. Both loops over its
nodes halt, and the one finds a cycle where the other does. What it is compiled into does not depend on
whether cycles are looked for first: it has one step for each node, which depends on the nodes that
connect to its node, in their order, and comes after their steps; and the order of the canvas is kept
where each node stands after those that connect to it. -/
theorem compile_iff_wellFormed (strict : Bool) (nodes : List Node) (name : String)
    (description : Option String) :
    ((∃ w, (compile strict nodes name description).result = .ok w) ↔ WellFormed nodes) ∧
    (¬WellFormed nodes → ∃ e, (compile strict nodes name description).result = .error e) ∧
    (∀ m, dependencyMap nodes = .ok m →
      Scan.Halts (nodes.map (·.id)) (dependenciesOf m) (.start (nodes.map (·.id)))
          ((order nodes m).map fun _ => ()) ∧
        Loop.Halts (nodes.map (·.id)) (dependenciesOf m) (.start (nodes.map (·.id)))
          (order nodes m)) ∧
    ∀ w, (compile strict nodes name description).result = .ok w →
      (∀ other, (compile other nodes name description).result = .ok w) ∧
      (w.steps.map (·.id)).Perm (nodes.map (·.id)) ∧
      (∀ s ∈ w.steps, s.dependencies =
        (nodes.filter fun n => n.connections.contains s.id).map (·.id)) ∧
      (∀ front s back, w.steps = front ++ s :: back → ∀ d ∈ s.dependencies, ∃ t ∈ front, t.id = d) ∧
      (DeclaredFirst nodes → w.steps.map (·.id) = nodes.map (·.id)) := by
  refine ⟨⟨?_, ?_⟩, fun unsound => exists_error unsound strict,
    fun m _ => ⟨Scan.halts_start, Loop.halts_start⟩, ?_⟩
  · rintro ⟨w, compiled⟩
    exact wellFormed_of_result compiled
  · intro sound
    obtain ⟨order, -, -, -, results⟩ := @exists_result nodes name description sound
    exact ⟨_, results strict⟩
  · intro w compiled
    have sound := wellFormed_of_result compiled
    obtain ⟨order, walked, perm, ordered, results⟩ := @exists_result nodes name description sound
    rw [results strict] at compiled
    obtain rfl := Except.ok.inj compiled
    refine ⟨results, ?_, ?_, ?_, ?_⟩
    · rw [ids_workflowOf]
      exact perm.map _
    · intro s member
      obtain ⟨n, -, rfl⟩ := (mem_workflowOf perm).mp member
      rfl
    · intro front s back split d listed
      have splitIds : order.map (·.id) = front.map (·.id) ++ s.id :: back.map (·.id) := by
        rw [← @ids_workflowOf nodes order name description, split, List.map_append, List.map_cons]
      have member : s ∈ (workflowOf nodes order name description).steps := by
        rw [split]
        exact List.mem_append_right _ List.mem_cons_self
      obtain ⟨n, -, rfl⟩ := (mem_workflowOf perm).mp member
      have edge : Depends (nodes.map (·.id)) (sources nodes) n.id d :=
        depends_sources.mpr (mem_sources.mp listed)
      exact List.mem_map.mp (ordered.before splitIds edge)
    · intro first
      rw [walk_of_declaredFirst sound.distinct first] at walked
      exact ids_workflowOf.trans (Except.ok.inj walked).symm

/-! ### Two nodes -/

theorem known_of_all
    (found : (nodes.all fun n => n.endpoint.all fun id => (Catalog.endpoint? id).isSome) = true) :
    ∀ n ∈ nodes, ∀ id, n.endpoint = some id → id ≠ "" → ∃ e ∈ Catalog.endpoints, e.id = id := by
  intro n member id given _
  have here := List.all_eq_true.mp found n member
  rw [given, Option.all_some] at here
  exact endpoint?_eq_some_iff.mp (Option.isSome_iff_exists.mp here)

section Two

variable {a b : Node} (forward : a.connections ⊆ [b.id]) (last : b.connections = [])
  (apart : a.id ≠ b.id)
include forward last

theorem connects_two {x y : String} (edge : Connects [a, b] x y) : x = a.id ∧ y = b.id := by
  obtain ⟨n, member, same, listed⟩ := edge
  rcases List.mem_cons.mp member with rfl | second
  · exact ⟨same.symm, List.mem_singleton.mp (forward listed)⟩
  · rw [List.mem_singleton.mp second, last] at listed
    cases listed

include apart

theorem declaredFirst_two : DeclaredFirst [a, b] := by
  intro front n back split d flows
  obtain ⟨rfl, second⟩ := connects_two forward last (mem_sources.mp flows)
  match front with
  | [] =>
      cases split
      exact absurd second apart
  | first :: _ =>
      rw [(List.cons.inj split).1]
      exact List.mem_cons_self

theorem wellFormed_two (known : ([a, b].all fun n =>
    n.endpoint.all fun id => (Catalog.endpoint? id).isSome) = true) : WellFormed [a, b] := by
  have distinct : ([a, b].map (·.id)).Nodup := by simpa using apart
  refine ⟨List.cons_ne_nil _ _, distinct, ?_,
    acyclic_of_declaredFirst distinct (declaredFirst_two forward last apart), known_of_all known⟩
  intro n member target listed
  obtain ⟨-, rfl⟩ := connects_two forward last ⟨n, member, rfl, listed⟩
  simp

end Two

/-- Two nodes, the first of which flows to the second. -/
def pair : List Node :=
  [{ id := "a", connections := ["b"] }, { id := "b", endpoint := some "openai-chat" }]

theorem wellFormed_pair : WellFormed pair :=
  wellFormed_two (List.Subset.refl _) rfl (by decide) rfl

/-- A node that connects to itself. -/
def knot : List Node := [{ id := "a", connections := ["a"] }]

theorem not_wellFormed_knot : ¬WellFormed knot := fun sound =>
  sound.acyclic ⟨"a", .single ⟨_, List.mem_cons_self, rfl, List.mem_cons_self⟩⟩

theorem compile_iff_wellFormed_pair :
    (∃ w, (compile true pair "Pair" none).result = .ok w ∧
      (compile false pair "Pair" none).result = .ok w ∧ w.steps.map (·.id) = ["a", "b"] ∧
      ∀ front s back, w.steps = front ++ s :: back → ∀ d ∈ s.dependencies, ∃ t ∈ front, t.id = d) ∧
    ∃ e, (compile true knot "Knot" none).result = .error e := by
  constructor
  · obtain ⟨accepted, -, -, compiled⟩ := compile_iff_wellFormed true pair "Pair" none
    obtain ⟨w, result⟩ := accepted.mpr wellFormed_pair
    obtain ⟨same, -, -, before, kept⟩ := compiled w result
    exact ⟨w, result, same false, kept (declaredFirst_two (List.Subset.refl _) rfl (by decide)), before⟩
  · obtain ⟨-, refused, -⟩ := compile_iff_wellFormed true knot "Knot" none
    exact refused not_wellFormed_knot

end Stepwise.Canvas
