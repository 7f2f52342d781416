import Stepwise.Proofs.Canvas.Wiring

/-!
Slots: each dependency of a compiled step takes an input of its own, until no input is left that may take
one, and those that come too late are reported. What was drawn stays in front as it is, and what is not
set in the end is filled.
-/

namespace Stepwise

namespace Wiring

/-! ### Dependencies and their inputs -/

section Wires

variable {endpointOf : String → Option Endpoint} {node : Node} {dependencies unwired : List String}
  {wired : List (String × String)} {w : Wired}

/-- What is written into the inputs that dependencies are wired to. -/
def references (endpointOf : String → Option Endpoint) (wired : List (String × String)) : Fields :=
  wired.map fun x => (x.2, written endpointOf x.1)

theorem names_references : Fields.names (references endpointOf wired) = wired.map (·.2) :=
  List.map_map

theorem references_snoc (d slot : String) : references endpointOf (wired ++ [(d, slot)]) =
    references endpointOf wired ++ [(slot, written endpointOf d)] :=
  List.map_append

/-- The invariant of the wiring of a node, of whose dependencies some have been gone through: the first
of them are wired, each to an input of its own, and the others have found every input set. -/
structure Wires (endpointOf : String → Option Endpoint) (node : Node) (dependencies : List String)
    (wired : List (String × String)) (unwired : List String) (w : Wired) : Prop where
  parts : dependencies = wired.map (·.1) ++ unwired
  inputs : w.inputs = node.inputs ++ references endpointOf wired
  remarks : w.remarks = unwired.map (.noFreeInput node.id)
  takes : ∀ x ∈ wired, Takes (declaredBy endpointOf node) x.2
  free : ∀ x ∈ wired, x.2 ∉ Fields.names node.inputs
  apart : (wired.map (·.2)).Nodup
  full : unwired ≠ [] → ∀ slot, Takes (declaredBy endpointOf node) slot → slot ∈ Fields.names w.inputs

theorem Wires.names (wires : Wires endpointOf node dependencies wired unwired w) :
    Fields.names w.inputs = Fields.names node.inputs ++ wired.map (·.2) := by
  rw [wires.inputs, Fields.names_append, names_references]

/-- One more dependency takes an input if one is left, and is reported otherwise. -/
theorem Wires.connect (wires : Wires endpointOf node dependencies wired unwired w) (d : String) :
    ∃ wired unwired, Wires endpointOf node (dependencies ++ [d]) wired unwired
      (connect endpointOf (declaredBy endpointOf node) node.id w d) := by
  cases picked : pickSlot (declaredBy endpointOf node) w.inputs with
  | none =>
      have same : (Wiring.connect endpointOf (declaredBy endpointOf node) node.id w d).inputs = w.inputs :=
        connect_of_full picked
      refine ⟨wired, unwired ++ [d], ?_, same.trans wires.inputs, ?_, wires.takes, wires.free,
        wires.apart, ?_⟩
      · rw [wires.parts, List.append_assoc]
      · rw [Wiring.connect, picked, List.map_append, ← wires.remarks]
        rfl
      · intro _ slot takes
        rw [same]
        exact pickSlot_eq_none_iff.mp picked slot takes
  | some slot =>
      have all : unwired = [] := by
        by_contra some
        have full := pickSlot_eq_none_iff.mpr (wires.full some)
        rw [picked] at full
        cases full
      obtain ⟨unset, takes⟩ := takes_of_pickSlot picked
      have free : slot ∉ Fields.names w.inputs := by
        rw [← Fields.has_iff, unset]
        exact Bool.false_ne_true
      rw [wires.names, List.mem_append, not_or] at free
      refine ⟨wired ++ [(d, slot)], [], ?_, ?_, ?_, ?_, ?_, ?_, fun some => absurd rfl some⟩
      · rw [wires.parts, all, List.map_append, List.append_nil, List.append_nil]
        rfl
      · rw [connect_of_picked picked, wires.inputs, references_snoc, List.append_assoc]
      · rw [Wiring.connect, picked, ← all]
        exact wires.remarks
      · exact List.forall_mem_append.mpr
          ⟨wires.takes, List.forall_mem_singleton.mpr takes⟩
      · exact List.forall_mem_append.mpr ⟨wires.free, List.forall_mem_singleton.mpr free.1⟩
      · rw [List.map_append]
        refine List.nodup_append.mpr ⟨wires.apart, List.nodup_singleton slot, ?_⟩
        rintro other listed _ last rfl
        rw [show other = slot from List.mem_singleton.mp last] at listed
        exact free.2 listed

theorem exists_wires (endpointOf : String → Option Endpoint) (node : Node) (dependencies : List String) :
    ∃ wired unwired, Wires endpointOf node dependencies wired unwired
      (wiredTo endpointOf node dependencies) := by
  induction dependencies using List.reverseRecOn with
  | nil =>
      exact ⟨[], [], rfl, (List.append_nil _).symm, rfl, List.forall_mem_nil _, List.forall_mem_nil _,
        List.nodup_nil, fun some => absurd rfl some⟩
  | append_singleton rest d ih =>
      obtain ⟨wired, unwired, wires⟩ := ih
      rw [wiredTo_snoc]
      exact wires.connect d

/-- What is written for a wired dependency is found under its input. -/
theorem Wires.get?_inputs (wires : Wires endpointOf node dependencies wired unwired w) {d slot : String}
    (member : (d, slot) ∈ wired) : Fields.get? w.inputs slot = some (written endpointOf d) := by
  rw [wires.inputs, Fields.get?_append, Fields.get?_of_not_mem (wires.free _ member), Option.none_or]
  apply Fields.get?_of_mem
  · rw [names_references]
    exact wires.apart
  · exact List.mem_map.mpr ⟨_, member, rfl⟩

end Wires

/-! ### Inputs that are filled -/

section Filled

variable {inputs : Fields} {params : List Param} {p : Param}

/-- What there is to fill a parameter with. -/
def supply (p : Param) : Option Value :=
  if isCredential p.name then some (.text ("$input." ++ p.name)) else p.default?

/-- The parameters that are not set and can be filled, with what they are filled with. -/
def filled (inputs : Fields) (params : List Param) : Fields :=
  params.filterMap fun p => if Fields.has inputs p.name then none else (supply p).map (p.name, ·)

theorem fillParam_eq (inputs : Fields) (p : Param) : fillParam inputs p = inputs ++ filled inputs [p] := by
  simp only [fillParam, filled, supply, List.filterMap_cons, List.filterMap_nil]
  cases free : Fields.has inputs p.name with
  | true => exact (List.append_nil inputs).symm
  | false =>
      simp only [Bool.false_eq_true, if_false, Fields.set_of_free free]
      split
      · rfl
      · cases p.default? with
        | none => exact (List.append_nil inputs).symm
        | some v => rfl

theorem names_filled_subset : Fields.names (filled inputs params) ⊆ params.map Param.name := by
  intro name listed
  obtain ⟨f, member, rfl⟩ := List.mem_map.mp listed
  obtain ⟨p, among, same⟩ := List.mem_filterMap.mp member
  split at same
  · cases same
  · obtain ⟨v, -, rfl⟩ := Option.map_eq_some_iff.mp same
    exact List.mem_map.mpr ⟨p, among, rfl⟩

/-- Fields of other names make no difference to what is filled. -/
theorem filled_append {extra : Fields} (apart : ∀ p ∈ params, p.name ∉ Fields.names extra) :
    filled (inputs ++ extra) params = filled inputs params := by
  apply List.filterMap_congr
  intro p member
  have same : Fields.has (inputs ++ extra) p.name = Fields.has inputs p.name := by
    rw [Bool.eq_iff_iff, Fields.has_iff, Fields.has_iff, Fields.names_append, List.mem_append,
      or_iff_left (apart p member)]
  rw [same]

theorem filled_cons (inputs : Fields) (p : Param) (rest : List Param) :
    filled inputs (p :: rest) = filled inputs [p] ++ filled inputs rest :=
  List.filterMap_append (l := [p])

theorem foldl_fillParam (distinct : (params.map Param.name).Nodup) :
    params.foldl fillParam inputs = inputs ++ filled inputs params := by
  induction params generalizing inputs with
  | nil => exact (List.append_nil inputs).symm
  | cons p rest ih =>
      obtain ⟨fresh, later⟩ := List.nodup_cons.mp distinct
      have others : ∀ q ∈ rest, q.name ∉ Fields.names (filled inputs [p]) := by
        intro q member taken
        have same : q.name = p.name := List.mem_singleton.mp (names_filled_subset taken)
        exact fresh (same ▸ List.mem_map.mpr ⟨q, member, rfl⟩)
      rw [List.foldl_cons, fillParam_eq, ih later, filled_append others,
        filled_cons inputs p rest, List.append_assoc]

/-- A parameter that is not set gets what there is to fill it with, and nothing otherwise. -/
theorem get?_filled (distinct : (params.map Param.name).Nodup) (member : p ∈ params)
    (unset : p.name ∉ Fields.names inputs) : Fields.get? (filled inputs params) p.name = supply p := by
  induction params with
  | nil => cases member
  | cons q rest ih =>
      obtain ⟨fresh, later⟩ := List.nodup_cons.mp distinct
      rw [filled_cons, Fields.get?_append]
      rcases List.mem_cons.mp member with rfl | among
      · have none : Fields.get? (filled inputs rest) p.name = none :=
          Fields.get?_of_not_mem fun taken => fresh (names_filled_subset taken)
        rw [← Fields.has_iff] at unset
        rw [none, Option.or_none, filled, List.filterMap_cons, if_neg unset]
        cases supply p with
        | none => rfl
        | some v => exact Fields.get?_of_mem (List.nodup_singleton p.name) List.mem_cons_self
      · have none : Fields.get? (filled inputs [q]) p.name = none := by
          apply Fields.get?_of_not_mem
          intro taken
          have same : p.name = q.name := List.mem_singleton.mp (names_filled_subset taken)
          exact fresh (same ▸ List.mem_map.mpr ⟨p, among, rfl⟩)
        rw [none, Option.none_or, ih later among]

end Filled

/-! ### What is reported -/

section Reported

variable {endpointOf : String → Option Endpoint} {node : Node} {dependencies unwired : List String}
  {wired : List (String × String)}

/-- The dependency that a remark reports for a node, because no input was free for it. -/
def reports (id : String) : Remark → Option String
  | .noFreeInput node d => if node = id then some d else none
  | _ => none

/-- The dependencies that are reported for a node. -/
def reported (remarks : List Remark) (id : String) : List String := remarks.filterMap (reports id)

theorem reported_append (front back : List Remark) (id : String) :
    reported (front ++ back) id = reported front id ++ reported back id :=
  List.filterMap_append

theorem reported_noFreeInput (node id : String) (dependencies : List String) :
    reported (dependencies.map (.noFreeInput node)) id = if node = id then dependencies else [] := by
  rw [reported, List.filterMap_map]
  by_cases same : node = id
  · have all : reports id ∘ Remark.noFreeInput node = some := funext fun _ => if_pos same
    rw [if_pos same, all, List.filterMap_some]
  · rw [if_neg same, List.filterMap_eq_nil_iff]
    exact fun _ _ => if_neg same

/-- Of a node nothing but its own dependencies is reported. -/
theorem reported_wire (wires : Wires endpointOf node dependencies wired unwired
      (wiredTo endpointOf node dependencies)) (id : String) :
    reported (wire endpointOf node dependencies).remarks id = if node.id = id then unwired else [] := by
  have loop : reported (wiredTo endpointOf node dependencies).remarks id =
      if node.id = id then unwired else [] := by
    rw [wires.remarks, reported_noFreeInput]
  rw [← loop]
  simp only [wire, wiredTo, declaredBy]
  cases endpointOf node.id with
  | none => rfl
  | some e =>
      dsimp only
      rw [reported_append]
      -- The remark on missing inputs names no dependency.
      split
      · exact List.append_nil _
      · exact List.append_nil _

end Reported

end Wiring

/-! ### Compiled steps -/

namespace Canvas

open Wiring (Takes Wires declaredBy filled references reported wiredTo)

variable {nodes order : List Node} {n : Node} {strict : Bool} {name : String}
  {description : Option String} {w : Workflow}

/-- The parameters of the endpoint that a node selects. -/
def parameters (n : Node) : List Param := ((selected n).map Endpoint.inputs).getD []

theorem endpointAt_of_mem (distinct : (nodes.map (·.id)).Nodup) (member : n ∈ nodes) :
    endpointAt nodes n.id = selected n := by
  rw [endpointAt, Lookup.find?_of_mem distinct member]
  rfl

theorem declaredBy_endpointAt (distinct : (nodes.map (·.id)).Nodup) (member : n ∈ nodes) :
    declaredBy (endpointAt nodes) n = (parameters n).map Param.name := by
  rw [declaredBy, endpointAt_of_mem distinct member, parameters]
  cases selected n <;> rfl

theorem nodup_inputNames : ∀ e ∈ Catalog.endpoints, (e.inputs.map Param.name).Nodup := by
  decide

theorem nodup_parameters (n : Node) : ((parameters n).map Param.name).Nodup := by
  cases selects : selected n with
  | none =>
      rw [parameters, selects]
      exact List.nodup_nil
  | some e =>
      rw [parameters, selects]
      obtain ⟨_, -, found⟩ := Option.bind_eq_some_iff.mp selects
      exact nodup_inputNames e (List.mem_of_find?_eq_some found)

theorem nodup_sources (distinct : (nodes.map (·.id)).Nodup) (id : String) :
    (sources nodes id).Nodup :=
  (List.filter_sublist.map _).nodup distinct

/-- The inputs of a step: those that were drawn, those that are wired and those that are filled. -/
theorem inputs_stepIn (distinct : (nodes.map (·.id)).Nodup) (member : n ∈ nodes) :
    (stepIn nodes n).inputs = (wiredTo (endpointAt nodes) n (sources nodes n.id)).inputs ++
      filled (wiredTo (endpointAt nodes) n (sources nodes n.id)).inputs (parameters n) := by
  rw [stepIn_inputs, Wiring.inputs_wire, endpointAt_of_mem distinct member]
  exact Wiring.foldl_fillParam (nodup_parameters n)

theorem exists_wires_sources (nodes : List Node) (n : Node) : ∃ wired unwired,
    Wires (endpointAt nodes) n (sources nodes n.id) wired unwired
        (wiredTo (endpointAt nodes) n (sources nodes n.id)) ∧
      ∀ id, reported (remarksIn nodes n) id = if n.id = id then unwired else [] := by
  obtain ⟨wired, unwired, wires⟩ := Wiring.exists_wires (endpointAt nodes) n (sources nodes n.id)
  exact ⟨wired, unwired, wires, Wiring.reported_wire wires⟩

theorem reported_of_not_mem {id : String} (absent : id ∉ order.map (·.id)) :
    reported (order.flatMap (remarksIn nodes)) id = [] := by
  induction order with
  | nil => rfl
  | cons n rest ih =>
      rw [List.map_cons, List.mem_cons, not_or] at absent
      obtain ⟨wired, unwired, -, here⟩ := exists_wires_sources nodes n
      rw [List.flatMap_cons, Wiring.reported_append, here, if_neg (Ne.symm absent.1), ih absent.2]
      rfl

/-- What is reported under the id of a node is reported of the node itself. -/
theorem reported_remarksOf (distinct : (order.map (·.id)).Nodup) (member : n ∈ order)
    (strict : Bool) : reported (remarksOf strict nodes order) n.id =
      reported (remarksIn nodes n) n.id := by
  have orphans : reported (if strict then orphanRemarks nodes
      (DependencyMap.tabulate (nodes.map (·.id)) (sources nodes)) else []) n.id = [] := by
    cases strict with
    | false => rfl
    | true =>
        simp only [if_true, orphanRemarks]
        split <;> rfl
  rw [remarksOf, Wiring.reported_append, orphans, List.nil_append]
  obtain ⟨front, back, rfl⟩ := List.append_of_mem member
  rw [List.map_append, List.map_cons, List.nodup_middle, List.nodup_cons, List.mem_append,
    not_or] at distinct
  rw [List.flatMap_append, List.flatMap_cons, Wiring.reported_append, Wiring.reported_append,
    reported_of_not_mem distinct.1.1, reported_of_not_mem distinct.1.2, List.nil_append,
    List.append_nil]

/-- The inputs of a compiled step are what was drawn into its node, unchanged and in front; behind it one
reference for each dependency that is wired, to the first output of the step of this; and last what
supplies the parameters that are then not set, which is an input of the run for a credential and the
default for any other that has one. Each dependency takes an input of its own or is reported, once, and
none is both. What it takes was not drawn, is no credential, and is declared or `data` where nothing is;
and one is reported only where every input of that sort is set. -/
theorem slots_of_compiled
    (compiled : (compile strict nodes name description).result = .ok w) :
    ∀ s ∈ w.steps, ∃ n ∈ nodes, n.id = s.id ∧ ∃ wired unwired,
      s.inputs = n.inputs ++ references (endpointAt nodes) wired ++
        filled (n.inputs ++ references (endpointAt nodes) wired) (parameters n) ∧
      s.dependencies = wired.map (·.1) ++ unwired ∧ s.dependencies.Nodup ∧
      reported (compile strict nodes name description).remarks s.id = unwired ∧
      (wired.map (·.2)).Nodup ∧
      (∀ d slot, (d, slot) ∈ wired →
        Takes ((parameters n).map Param.name) slot ∧ slot ∉ Fields.names n.inputs ∧
        ∃ t ∈ w.steps, t.id = d ∧ ∃ output, t.outputs.head? = some output ∧
          Fields.get? s.inputs slot = some (.text ("$steps." ++ d ++ "." ++ output))) ∧
      (unwired ≠ [] → ∀ slot, Takes ((parameters n).map Param.name) slot →
        slot ∈ Fields.names n.inputs ∨ slot ∈ wired.map (·.2)) ∧
      ∀ p ∈ parameters n, p.name ∉ Fields.names n.inputs → p.name ∉ wired.map (·.2) →
        Fields.get? s.inputs p.name =
          if Wiring.isCredential p.name then some (.text ("$input." ++ p.name)) else p.default? := by
  have sound := wellFormed_of_result compiled
  obtain ⟨order, -, perm, -, whole⟩ := @exists_compiled nodes name description sound
  rw [whole strict] at compiled ⊢
  obtain rfl := Except.ok.inj compiled
  have distinct : (order.map (·.id)).Nodup := (perm.map _).nodup_iff.mpr sound.distinct
  intro s member
  obtain ⟨n, drawn, rfl⟩ := (mem_workflowOf perm).mp member
  obtain ⟨wired, unwired, wires, here⟩ := exists_wires_sources nodes n
  have inputs := inputs_stepIn sound.distinct drawn
  have declared := declaredBy_endpointAt sound.distinct drawn
  have set {slot : String} : slot ∈ Fields.names (wiredTo (endpointAt nodes) n (sources nodes n.id)).inputs ↔
      slot ∈ Fields.names n.inputs ∨ slot ∈ wired.map (·.2) := by
    rw [wires.names, List.mem_append]
  refine ⟨n, drawn, rfl, wired, unwired, ?_, wires.parts, nodup_sources sound.distinct n.id, ?_,
    wires.apart, ?_, ?_, ?_⟩
  · rw [inputs, wires.inputs]
  · rw [← perm.mem_iff] at drawn
    show reported (remarksOf strict nodes order) n.id = unwired
    rw [reported_remarksOf distinct drawn, here, if_pos rfl]
  · intro d slot taken
    refine ⟨declared ▸ wires.takes _ taken, wires.free _ taken, ?_⟩
    have listed : d ∈ sources nodes n.id := by
      rw [wires.parts]
      exact List.mem_append_left _ (List.mem_map.mpr ⟨_, taken, rfl⟩)
    obtain ⟨m, source, rfl, -⟩ := mem_sources.mp listed
    refine ⟨stepIn nodes m, (mem_workflowOf perm).mpr ⟨m, source, rfl⟩, rfl, _, head?_outputs, ?_⟩
    rw [inputs, Fields.get?_append, wires.get?_inputs taken, Option.some_or]
    rfl
  · intro some slot takes
    exact set.mp (wires.full some slot (declared ▸ takes))
  · intro p among undrawn unwired
    have unset := fun member => (set.mp member).elim undrawn unwired
    rw [inputs, Fields.get?_append, Fields.get?_of_not_mem unset, Option.none_or,
      Wiring.get?_filled (nodup_parameters n) among unset]
    rfl

/-- A node with an input of its own, whose endpoint takes one output. -/
def narrow : Node := { id := "c", endpoint := some "youtube-videos", inputs := [("part", .text "snippet")] }

/-- Two nodes that flow to it. -/
def crowded : List Node :=
  [{ id := "a", connections := ["c"] }, { id := "b", connections := ["c"] }, narrow]

theorem connects_crowded {a b : String} (flows : Connects crowded a b) : a ≠ "c" ∧ b = "c" := by
  obtain ⟨n, member, rfl, listed⟩ := flows
  simp only [crowded, List.mem_cons, List.not_mem_nil, or_false] at member
  rcases member with rfl | rfl | rfl
  · exact ⟨by decide, List.mem_singleton.mp listed⟩
  · exact ⟨by decide, List.mem_singleton.mp listed⟩
  · cases listed

theorem wellFormed_crowded : WellFormed crowded := by
  refine ⟨List.cons_ne_nil _ _, by decide, ?_, ?_, known_of_all rfl⟩
  · intro n member target listed
    obtain ⟨-, rfl⟩ := connects_crowded ⟨n, member, rfl, listed⟩
    decide
  · rintro ⟨id, cycle⟩
    obtain ⟨_, first, -⟩ := Relation.TransGen.head'_iff.mp cycle
    obtain ⟨_, -, last⟩ := Relation.TransGen.tail'_iff.mp cycle
    exact (connects_crowded first).1 (connects_crowded last).2

theorem takes_narrow_iff {slot : String} :
    Takes ((parameters narrow).map Param.name) slot ↔ slot = "video_ids" := by
  have names : (parameters narrow).map Param.name = ["access_token", "video_ids"] := rfl
  rw [names]
  constructor
  · rintro ⟨plain, listed | ⟨blank, -⟩⟩
    · rcases List.mem_cons.mp listed with rfl | second
      · cases plain
      · exact List.mem_singleton.mp second
    · cases blank
  · rintro rfl
    exact ⟨rfl, Or.inl (List.mem_cons_of_mem _ List.mem_cons_self)⟩

/-- The first of the two nodes takes the only input that is left, and the second is reported. -/
theorem slots_of_compiled_crowded : ∃ w, (compile true crowded "Crowded" none).result = .ok w ∧
    ∃ s ∈ w.steps, s.dependencies = ["a", "b"] ∧
      reported (compile true crowded "Crowded" none).remarks s.id = ["b"] ∧
      Fields.get? s.inputs "part" = some (.text "snippet") ∧
      Fields.get? s.inputs "video_ids" = some (.text "$steps.a.result") ∧
      Fields.get? s.inputs "access_token" = some (.text "$input.access_token") := by
  obtain ⟨order, -, perm, -, results⟩ := @exists_result crowded "Crowded" none wellFormed_crowded
  have member : stepIn crowded narrow ∈ (workflowOf crowded order "Crowded" none).steps :=
    (mem_workflowOf perm).mpr ⟨narrow, by simp [crowded], rfl⟩
  obtain ⟨n, drawn, same, wired, unwired, -, parts, -, reports, apart, takes, full, -⟩ :=
    slots_of_compiled (results true) _ member
  obtain rfl : n = narrow := by
    simp only [crowded, List.mem_cons, List.not_mem_nil, or_false] at drawn
    rcases drawn with rfl | rfl | rfl
    · exact absurd same (by decide)
    · exact absurd same (by decide)
    · rfl
  refine ⟨_, results true, _, member, rfl, ?_, rfl, rfl, rfl⟩
  rw [reports]
  match wired with
  | [] =>
      have some : unwired ≠ [] := by
        rw [← parts.trans (List.nil_append _)]
        exact List.cons_ne_nil _ _
      exact absurd (full some "video_ids" (takes_narrow_iff.mpr rfl)) (by decide)
  | [_] => exact (List.cons.inj parts).2.symm
  | (d, slot) :: (e, other) :: _ =>
      have first := takes_narrow_iff.mp (takes d slot List.mem_cons_self).1
      have second := takes_narrow_iff.mp (takes e other (List.mem_cons_of_mem _ List.mem_cons_self)).1
      rw [first, second] at apart
      exact absurd List.mem_cons_self (List.nodup_cons.mp apart).1

end Canvas

end Stepwise
