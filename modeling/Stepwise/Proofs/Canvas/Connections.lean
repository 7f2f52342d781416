import Stepwise.Canvas.Compile
import Stepwise.Proofs.Lookup

/-!
The nodes that flow into each node of a canvas: where every connection leads to a node, they are exactly
the nodes that connect to it, once each and in the order of the canvas.
-/

namespace Stepwise.Canvas

/-! ### Distinct ids -/

theorem distinctIds_iff {nodes : List Node} :
    distinctIds nodes = true ↔ (nodes.map (·.id)).Nodup := by
  rw [distinctIds, beq_iff_eq, ← Lookup.length_eraseDups_eq_iff, List.length_map]

/-! ### Connections -/

/-- The output of the first node flows to the second. -/
def Connects (nodes : List Node) (a b : String) : Prop := ∃ n ∈ nodes, n.id = a ∧ b ∈ n.connections

/-- Every connection leads to a node. -/
def Leads (ids : List String) (nodes : List Node) : Prop := ∀ n ∈ nodes, n.connections ⊆ ids

/-- The nodes that connect to a node, in the order of the canvas. -/
def sources (nodes : List Node) (id : String) : List String :=
  (nodes.filter fun n => n.connections.contains id).map (·.id)

theorem mem_sources {nodes : List Node} {a b : String} : a ∈ sources nodes b ↔ Connects nodes a b := by
  simp only [sources, Connects, List.mem_map, List.mem_filter, List.contains_iff_mem]
  constructor
  · rintro ⟨n, ⟨member, listed⟩, same⟩
    exact ⟨n, member, same, listed⟩
  · rintro ⟨n, member, same, listed⟩
    exact ⟨n, ⟨member, listed⟩, same⟩

theorem sources_cons (n : Node) (rest : List Node) (id : String) :
    sources (n :: rest) id = (if id ∈ n.connections then [n.id] else []) ++ sources rest id := by
  simp only [sources, List.filter_cons]
  by_cases listed : id ∈ n.connections
  · rw [if_pos (List.contains_iff_mem.mpr listed), if_pos listed, List.map_cons,
      List.singleton_append]
  · rw [if_neg (fun found => listed (List.contains_iff_mem.mp found)), if_neg listed, List.nil_append]

/-! ### Maps over ids -/

namespace DependencyMap

/-- The map that files what a function gives for each id. -/
def tabulate (ids : List String) (f : String → List String) : DependencyMap :=
  ids.map fun id => (id, f id)

variable {ids : List String} {f : String → List String}

theorem dependenciesOf_tabulate {id : String} (known : id ∈ ids) :
    dependenciesOf (tabulate ids f) id = f id := by
  rw [dependenciesOf, tabulate, List.find?_map]
  induction ids with
  | nil => cases known
  | cons first rest ih =>
      by_cases same : first = id
      · simp [same]
      · have later : id ∈ rest := (List.mem_cons.mp known).resolve_left fun equal => same equal.symm
        simpa [same] using ih later

/-- A source that is added to those of some ids, unless it is there already. -/
def adding (f : String → List String) (targets : List String) (source : String) :
    String → List String :=
  fun id => if id ∈ targets ∧ source ∉ f id then f id ++ [source] else f id

theorem addDependency_tabulate (target source : String) :
    addDependency (tabulate ids f) target source = tabulate ids (adding f [target] source) := by
  rw [addDependency, tabulate, List.map_map]
  apply List.map_congr_left
  intro id _
  by_cases here : id = target
  · by_cases there : source ∈ f target
    · simp [adding, here, there]
    · simp [adding, here, there]
  · simp [adding, here]

theorem adding_adding (target : String) (rest : List String) (source : String) :
    adding (adding f [target] source) rest source = adding f (target :: rest) source := by
  funext id
  by_cases here : id = target
  · by_cases there : source ∈ f target
    · simp [adding, here, there]
    · simp [adding, here, there]
  · simp [adding, here]

theorem addConnections_tabulate {source : String} {targets : List String} (known : targets ⊆ ids) :
    addConnections source (tabulate ids f) targets = .ok (tabulate ids (adding f targets source)) := by
  induction targets generalizing f with
  | nil =>
      have same : adding f [] source = f := funext fun id => if_neg fun absent => nomatch absent.1
      rw [addConnections, same]
  | cons target rest ih =>
      obtain ⟨here, later⟩ := List.cons_subset.mp known
      have found : (tabulate ids f).any (·.1 == target) = true :=
        List.any_eq_true.mpr ⟨_, List.mem_map.mpr ⟨target, here, rfl⟩, beq_self_eq_true target⟩
      rw [addConnections, if_pos found, addDependency_tabulate, ih later, adding_adding]

theorem addConnections_of_unknown {source : String} {targets : List String} (unknown : ¬targets ⊆ ids) :
    ∃ e, addConnections source (tabulate ids f) targets = .error e := by
  induction targets generalizing f with
  | nil => exact absurd (List.nil_subset ids) unknown
  | cons target rest ih =>
      rw [addConnections]
      split
      · rename_i found
        obtain ⟨_, member, same⟩ := List.any_eq_true.mp found
        obtain ⟨id, here, rfl⟩ := List.mem_map.mp member
        rw [addDependency_tabulate]
        apply ih
        intro later
        exact unknown (List.cons_subset.mpr ⟨eq_of_beq same ▸ here, later⟩)
      · exact ⟨_, rfl⟩

end DependencyMap

/-! ### The map of a canvas -/

open DependencyMap

variable {ids : List String} {f : String → List String} {nodes : List Node}

theorem addNodes_tabulate (leads : Leads ids nodes) (distinct : (nodes.map (·.id)).Nodup)
    (fresh : ∀ n ∈ nodes, ∀ id, n.id ∉ f id) :
    addNodes (tabulate ids f) nodes = .ok (tabulate ids fun id => f id ++ sources nodes id) := by
  induction nodes generalizing f with
  | nil =>
      have same : (fun id => f id ++ sources [] id) = f := funext fun id => List.append_nil (f id)
      rw [addNodes, same]
  | cons n rest ih =>
      obtain ⟨here, later⟩ := List.nodup_cons.mp distinct
      have added : adding f n.connections n.id = fun id =>
          f id ++ if id ∈ n.connections then [n.id] else [] := by
        funext id
        by_cases listed : id ∈ n.connections
        · simp [adding, listed, fresh n List.mem_cons_self id]
        · simp [adding, listed]
      rw [addNodes, addConnections_tabulate (leads n List.mem_cons_self), added]
      show addNodes _ rest = _
      rw [ih (fun m member => leads m (List.mem_cons_of_mem n member)) later]
      · simp only [sources_cons, List.append_assoc]
      · -- An id of its own is not that of the node before.
        intro m member id present
        rcases List.mem_append.mp present with earlier | new
        · exact fresh m (List.mem_cons_of_mem n member) id earlier
        · have same : m.id = n.id := by
            split at new
            · exact List.mem_singleton.mp new
            · cases new
          exact here (List.mem_map.mpr ⟨m, member, same⟩)

theorem addNodes_of_unknown (unknown : ¬Leads ids nodes) :
    ∃ e, addNodes (tabulate ids f) nodes = .error e := by
  induction nodes generalizing f with
  | nil => exact absurd (fun _ absent => nomatch absent) unknown
  | cons n rest ih =>
      rw [addNodes]
      by_cases known : n.connections ⊆ ids
      · rw [addConnections_tabulate known]
        apply ih
        intro leads
        exact unknown (List.forall_mem_cons.mpr ⟨known, leads⟩)
      · obtain ⟨e, failed⟩ := @addConnections_of_unknown ids f n.id n.connections known
        rw [failed]
        exact ⟨e, rfl⟩

theorem dependencyMap_of_distinct (distinct : (nodes.map (·.id)).Nodup) :
    dependencyMap nodes = addNodes (tabulate (nodes.map (·.id)) fun _ => []) nodes := by
  have keys : (nodes.map fun n => (n.id, ([] : List String))).Nodup := by
    apply List.Nodup.of_map Prod.fst
    rwa [List.map_map]
  rw [dependencyMap, Lookup.eraseDups_of_nodup keys, tabulate, List.map_map]
  rfl

/-- The nodes that flow into each node are those that connect to it. -/
theorem dependencyMap_of_leads (distinct : (nodes.map (·.id)).Nodup)
    (leads : Leads (nodes.map (·.id)) nodes) :
    dependencyMap nodes = .ok (tabulate (nodes.map (·.id)) (sources nodes)) := by
  rw [dependencyMap_of_distinct distinct,
    addNodes_tabulate leads distinct fun _ _ _ => List.not_mem_nil]
  simp only [List.nil_append]

theorem dependencyMap_of_unknown (distinct : (nodes.map (·.id)).Nodup)
    (unknown : ¬Leads (nodes.map (·.id)) nodes) : ∃ e, dependencyMap nodes = .error e := by
  rw [dependencyMap_of_distinct distinct]
  exact addNodes_of_unknown unknown

end Stepwise.Canvas
