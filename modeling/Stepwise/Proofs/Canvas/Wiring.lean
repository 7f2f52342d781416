import Mathlib.Data.List.Induction
import Stepwise.Proofs.Canvas.Compile
import Stepwise.Proofs.Reference.Path
import Stepwise.Proofs.Reference.Resolution

/-!
Wiring: what stands in the inputs of a compiled step, and which of the references in them lead to the
outputs that they are written for.
-/

namespace Stepwise

/-! ### Free inputs -/

theorem Fields.set_of_free {fields : Fields} {name : String} (free : has fields name = false)
    (v : Value) : set fields name v = fields ++ [(name, v)] := by
  rw [set, free]
  rfl

namespace Wiring

variable {endpointOf : String → Option Endpoint} {node : Node} {dependencies declared : List String}
  {inputs : Fields} {slot name d : String} {v : Value}

/-- An input that may take an output: it is no credential, and it is declared, or is `data` where no
inputs are declared. -/
def Takes (declared : List String) (slot : String) : Prop :=
  isCredential slot = false ∧ (slot ∈ declared ∨ declared = [] ∧ slot = "data")

theorem not_isCredential_of_preferred : ∀ name ∈ preferred, isCredential name = false := by decide

theorem takes_of_pickSlot (picked : pickSlot declared inputs = some slot) :
    Fields.has inputs slot = false ∧ Takes declared slot := by
  simp only [pickSlot] at picked
  split at picked
  · rename_i found
    cases picked
    have passed := List.find?_some found
    simp only [Bool.and_eq_true, List.contains_iff_mem, Bool.not_eq_true'] at passed
    have plain := not_isCredential_of_preferred slot (List.mem_of_find?_eq_some found)
    exact ⟨passed.2, plain, Or.inl passed.1⟩
  split at picked
  · rename_i found
    cases picked
    have passed := List.find?_some found
    simp only [Bool.and_eq_true, Bool.not_eq_true'] at passed
    exact ⟨passed.1, passed.2, Or.inl (List.mem_of_find?_eq_some found)⟩
  · split at picked
    · rename_i passed
      cases picked
      simp only [Bool.and_eq_true, Bool.not_eq_true', List.isEmpty_iff] at passed
      exact ⟨passed.2, rfl, Or.inr ⟨passed.1, rfl⟩⟩
    · cases picked

theorem free_of_pickSlot (picked : pickSlot declared inputs = some slot) :
    Fields.has inputs slot = false ∧ (slot ∈ declared ∨ slot = "data") := by
  obtain ⟨free, -, place⟩ := takes_of_pickSlot picked
  exact ⟨free, place.imp id And.right⟩

/-- No input is picked exactly if every input that may take an output is set. -/
theorem pickSlot_eq_none_iff :
    pickSlot declared inputs = none ↔ ∀ slot, Takes declared slot → slot ∈ Fields.names inputs := by
  constructor
  · rintro full slot ⟨plain, place⟩
    rw [← Fields.has_iff]
    by_contra unset
    have free := Bool.not_eq_true _ ▸ unset
    simp only [pickSlot] at full
    split at full
    · cases full
    split at full
    · cases full
    · rename_i passed
      rcases place with listed | ⟨blank, rfl⟩
      · have taken := List.find?_eq_none.mp passed slot listed
        rw [free, plain] at taken
        exact taken rfl
      · have set : (declared.isEmpty && !Fields.has inputs "data") = true := by
          rw [blank, free]
          rfl
        rw [if_pos set] at full
        cases full
  · intro set
    cases picked : pickSlot declared inputs with
    | none => rfl
    | some slot =>
        obtain ⟨free, takes⟩ := takes_of_pickSlot picked
        rw [Fields.has_iff.mpr (set slot takes)] at free
        cases free

/-! ### Wired inputs -/

/-- The names of the inputs that the endpoint of a node declares. -/
def declaredBy (endpointOf : String → Option Endpoint) (node : Node) : List String :=
  ((endpointOf node.id).map Endpoint.inputNames).getD []

/-- A node whose first dependencies are wired, in order. -/
def wiredTo (endpointOf : String → Option Endpoint) (node : Node) (dependencies : List String) : Wired :=
  dependencies.foldl (connect endpointOf (declaredBy endpointOf node) node.id) { inputs := node.inputs }

/-- The output of a dependency of a node is wired into one of its inputs. -/
def Fills (endpointOf : String → Option Endpoint) (node : Node) (dependencies : List String)
    (slot d : String) : Prop :=
  ∃ before after, dependencies = before ++ d :: after ∧
    pickSlot (declaredBy endpointOf node) (wiredTo endpointOf node before).inputs = some slot

/-- What is written into an input for a dependency. -/
def written (endpointOf : String → Option Endpoint) (d : String) : Value :=
  .text (referenceTo d (outputOf (endpointOf d)))

theorem wiredTo_snoc (d : String) : wiredTo endpointOf node (dependencies ++ [d]) =
    connect endpointOf (declaredBy endpointOf node) node.id (wiredTo endpointOf node dependencies) d := by
  rw [wiredTo, List.foldl_append]
  rfl

theorem connect_of_picked {wired : Wired} (picked : pickSlot declared wired.inputs = some slot) :
    (connect endpointOf declared node.id wired d).inputs =
      wired.inputs ++ [(slot, written endpointOf d)] := by
  rw [connect, picked]
  exact Fields.set_of_free (free_of_pickSlot picked).1 _

theorem connect_of_full {wired : Wired} (full : pickSlot declared wired.inputs = none) :
    (connect endpointOf declared node.id wired d).inputs = wired.inputs := by
  rw [connect, full]

/-- No later dependency takes the input of an earlier one. -/
theorem get?_wiredTo_append {before after : List String}
    (found : Fields.get? (wiredTo endpointOf node before).inputs name = some v) :
    Fields.get? (wiredTo endpointOf node (before ++ after)).inputs name = some v := by
  induction after using List.reverseRecOn with
  | nil => rwa [List.append_nil]
  | append_singleton rest d ih =>
      rw [← List.append_assoc, wiredTo_snoc]
      cases picked : pickSlot (declaredBy endpointOf node)
          (wiredTo endpointOf node (before ++ rest)).inputs with
      | none => rwa [connect_of_full picked]
      | some slot => rw [connect_of_picked picked, Fields.get?_append, ih, Option.some_or]

theorem get?_wiredTo_of_fills (fills : Fills endpointOf node dependencies slot d) :
    Fields.get? (wiredTo endpointOf node dependencies).inputs slot = some (written endpointOf d) := by
  obtain ⟨before, after, rfl, picked⟩ := fills
  have split : before ++ d :: after = (before ++ [d]) ++ after := by simp
  rw [split]
  apply get?_wiredTo_append
  have absent : Fields.get? (wiredTo endpointOf node before).inputs slot = none := by
    apply Fields.get?_of_not_mem
    rw [← Fields.has_iff, (free_of_pickSlot picked).1]
    exact Bool.false_ne_true
  rw [wiredTo_snoc, connect_of_picked picked, Fields.get?_append, absent, Option.none_or]
  simp [Fields.get?]

theorem Fills.mem (fills : Fills endpointOf node dependencies slot d) : d ∈ dependencies := by
  obtain ⟨before, after, rfl, -⟩ := fills
  exact List.mem_append_right _ List.mem_cons_self

theorem Fills.snoc (fills : Fills endpointOf node dependencies slot d) (last : String) :
    Fills endpointOf node (dependencies ++ [last]) slot d := by
  obtain ⟨before, after, rfl, picked⟩ := fills
  exact ⟨before, after ++ [last], by simp, picked⟩

theorem fills_or_mem_of_wiredTo {f : String × Value}
    (member : f ∈ (wiredTo endpointOf node dependencies).inputs) :
    f ∈ node.inputs ∨
      ∃ d, Fills endpointOf node dependencies f.1 d ∧ f.2 = written endpointOf d := by
  induction dependencies using List.reverseRecOn with
  | nil => exact Or.inl member
  | append_singleton rest last ih =>
      have earlier (inside : f ∈ (wiredTo endpointOf node rest).inputs) : f ∈ node.inputs ∨
          ∃ d, Fills endpointOf node (rest ++ [last]) f.1 d ∧ f.2 = written endpointOf d :=
        (ih inside).imp id fun ⟨d, fills, same⟩ => ⟨d, fills.snoc last, same⟩
      rw [wiredTo_snoc] at member
      cases picked : pickSlot (declaredBy endpointOf node) (wiredTo endpointOf node rest).inputs with
      | none =>
          rw [connect_of_full picked] at member
          exact earlier member
      | some slot =>
          rw [connect_of_picked picked] at member
          rcases List.mem_append.mp member with inside | new
          · exact earlier inside
          · cases List.mem_singleton.mp new
            exact Or.inr ⟨last, ⟨rest, [], rfl, picked⟩, rfl⟩

theorem slots_wiredTo_subset :
    (wiredTo endpointOf node dependencies).slots ⊆ "data" :: declaredBy endpointOf node := by
  induction dependencies using List.reverseRecOn with
  | nil => exact List.nil_subset _
  | append_singleton rest last ih =>
      rw [wiredTo_snoc, connect]
      cases picked : pickSlot (declaredBy endpointOf node) (wiredTo endpointOf node rest).inputs with
      | none => exact ih
      | some slot =>
          refine List.append_subset.mpr ⟨ih, ?_⟩
          intro name listed
          rw [List.mem_singleton.mp listed]
          exact List.mem_cons.mpr (free_of_pickSlot picked).2.symm

/-! ### Filled inputs -/

/-- What a parameter that is not set is filled with. -/
def Supplies (p : Param) (v : Value) : Prop := v = .text ("$input." ++ p.name) ∨ p.default? = some v

/-- A parameter that is set stays as it is, and any other is put behind what is set if there is something
to fill it with. -/
theorem fillParam_cases (inputs : Fields) (p : Param) :
    fillParam inputs p = inputs ∨ ∃ v, Supplies p v ∧ fillParam inputs p = inputs ++ [(p.name, v)] := by
  unfold fillParam
  split
  · exact Or.inl rfl
  · rename_i unset
    have free := Bool.not_eq_true _ ▸ unset
    split
    · exact Or.inr ⟨_, Or.inl rfl, Fields.set_of_free free _⟩
    · split
      · rename_i default
        exact Or.inr ⟨_, Or.inr default, Fields.set_of_free free _⟩
      · exact Or.inl rfl

theorem mem_or_supplies_of_fillParam {p : Param} {f : String × Value} (member : f ∈ fillParam inputs p) :
    f ∈ inputs ∨ (f.1 = p.name ∧ Supplies p f.2) := by
  rcases fillParam_cases inputs p with same | ⟨v, supplied, filled⟩
  · exact Or.inl (same ▸ member)
  · rw [filled, List.mem_append, List.mem_singleton] at member
    rcases member with inside | rfl
    · exact Or.inl inside
    · exact Or.inr ⟨rfl, supplied⟩

theorem mem_or_supplies_of_foldl {params : List Param} {f : String × Value}
    (member : f ∈ params.foldl fillParam inputs) :
    f ∈ inputs ∨ ∃ p ∈ params, f.1 = p.name ∧ Supplies p f.2 := by
  induction params generalizing inputs with
  | nil => exact Or.inl member
  | cons p rest ih =>
      rcases ih member with inside | ⟨q, later, supplied⟩
      · exact (mem_or_supplies_of_fillParam inside).imp id fun supplied =>
          ⟨p, List.mem_cons_self, supplied⟩
      · exact Or.inr ⟨q, List.mem_cons_of_mem p later, supplied⟩

theorem get?_fillParam {p : Param} (found : Fields.get? inputs name = some v) :
    Fields.get? (fillParam inputs p) name = some v := by
  rcases fillParam_cases inputs p with same | ⟨_, -, filled⟩
  · rw [same, found]
  · rw [filled, Fields.get?_append, found, Option.some_or]

theorem get?_foldl_fillParam {params : List Param} (found : Fields.get? inputs name = some v) :
    Fields.get? (params.foldl fillParam inputs) name = some v := by
  induction params generalizing inputs with
  | nil => exact found
  | cons p rest ih => exact ih (get?_fillParam found)

theorem inputs_wire : (wire endpointOf node dependencies).inputs =
    (((endpointOf node.id).map Endpoint.inputs).getD []).foldl fillParam
      (wiredTo endpointOf node dependencies).inputs := by
  simp only [wire, wiredTo, declaredBy]
  cases endpointOf node.id <;> rfl

/-- In the inputs of a step stands what was written for each dependency that was wired. -/
theorem get?_wire (fills : Fills endpointOf node dependencies slot d) :
    Fields.get? (wire endpointOf node dependencies).inputs slot = some (written endpointOf d) := by
  rw [inputs_wire]
  exact get?_foldl_fillParam (get?_wiredTo_of_fills fills)

/-- All else in the inputs of a step was drawn, or a parameter of its endpoint supplies it. -/
theorem mem_wire {f : String × Value} (member : f ∈ (wire endpointOf node dependencies).inputs) :
    f ∈ node.inputs ∨
      (∃ d, Fills endpointOf node dependencies f.1 d ∧ f.2 = written endpointOf d) ∨
      ∃ e p, endpointOf node.id = some e ∧ p ∈ e.inputs ∧ f.1 = p.name ∧ Supplies p f.2 := by
  rw [inputs_wire] at member
  rcases mem_or_supplies_of_foldl member with inside | ⟨p, among, supplied⟩
  · exact (fills_or_mem_of_wiredTo inside).imp id Or.inl
  · cases selects : endpointOf node.id with
    | none =>
        rw [selects] at among
        cases among
    | some e =>
        rw [selects] at among
        exact Or.inr (Or.inr ⟨e, p, rfl, among, supplied⟩)

theorem name_of_wire {f : String × Value} (blank : node.inputs = [])
    (member : f ∈ (wire endpointOf node dependencies).inputs) :
    f.1 = "data" ∨ ∃ e p, endpointOf node.id = some e ∧ p ∈ e.inputs ∧ f.1 = p.name := by
  rcases mem_wire member with drawn | ⟨d, ⟨before, after, -, picked⟩, -⟩ |
      ⟨e, p, selects, among, same, -⟩
  · rw [blank] at drawn
    cases drawn
  · rcases (free_of_pickSlot picked).2 with declared | data
    · cases selects : endpointOf node.id with
      | none =>
          rw [declaredBy, selects] at declared
          cases declared
      | some e =>
          rw [declaredBy, selects] at declared
          obtain ⟨p, among, same⟩ := List.mem_map.mp declared
          exact Or.inr ⟨e, p, rfl, among, same.symm⟩
    · exact Or.inl data
  · exact Or.inr ⟨e, p, selects, among, same⟩

/-! ### Written references -/

theorem outputOf_catalog : ∀ e ∈ Catalog.endpoints,
    Path.parse (outputOf (some e)) = .ok [.key (outputOf (some e))] :=
  List.map_inj_left.mp rfl

theorem ofValue_referenceTo {output : String} (plain : Path.parse output = .ok [.key output]) :
    Reference.ofValue (.text (referenceTo d output)) =
      (Path.parse d).map fun path =>
        some ⟨referenceTo d output, .steps, path ++ [.key output]⟩ := by
  have chars : (referenceTo d output).toList =
      '$' :: (Scope.steps.opening ++ (d.toList ++ '.' :: output.toList)) := by
    simp [referenceTo, Scope.opening, Scope.name]
  have opened : Reference.scoped? (Scope.steps.opening ++ (d.toList ++ '.' :: output.toList)) =
      some (.steps, d.toList ++ '.' :: output.toList) := rfl
  show Reference.ofText _ = _
  rw [Reference.ofText, chars]
  simp only [opened, Path.ofChars_append_dot]
  rw [Path.parse] at plain ⊢
  rw [plain]
  cases Path.ofChars d.toList <;> rfl

/-- What is written for a dependency comes to its output whatever this is, exactly where its id is a
name that can be read back from a path. -/
theorem resolve_referenceTo_iff {output : String} (plain : Path.parse output = .ok [.key output]) :
    (∀ (ctx : Context) (entries : Entries) (x : Value),
      Fields.get? ctx.results d = some (.dict entries) → Value.lookupText? entries output = some x →
        (Value.text (referenceTo d output)).resolve ctx = .ok x) ↔ Path.Readable d := by
  have written := @ofValue_referenceTo d output plain
  constructor
  · intro reaches
    have held : Value.lookupText? [(.text output, .int 1)] output = some (.int 1) := by
      simpa [Fields.get?] using Value.lookupText?_fields [(output, .int 1)] output
    have one := reaches { results := [(d, .dict [(.text output, .int 1)])] } _ (.int 1)
      (by simp [Fields.get?]) held
    cases read : Path.parse d with
    | error e =>
        rw [read] at written
        rw [Value.resolve, written] at one
        cases one
    | ok path =>
        rw [read, Except.map] at written
        rw [Value.resolve_of_reference written, Except.ok.injEq] at one
        obtain ⟨first, rest, rfl⟩ := List.exists_cons_of_ne_nil (Path.ofChars_ne_nil read)
        obtain ⟨name, v, named, found⟩ := Value.exists_name_of_lookup one Value.noConfusion
        have same : name = d := by
          by_contra apart
          simp [Fields.get?, Ne.symm apart] at found
        exact Path.readable_of_parse read (same ▸ named)
  · intro readable ctx entries x here there
    obtain ⟨segment, read, named⟩ := Path.parse_of_readable readable
    rw [read, Except.map] at written
    rw [Value.resolve_of_reference written]
    show Except.ok (Value.lookup (segment :: [.key output]) (.ofFields ctx.results)) = _
    rw [Value.lookup_of_name named, here]
    show Except.ok ((Value.lookupText? entries output).getD .null) = _
    rw [there]
    rfl

end Wiring

namespace Canvas

open Wiring (Fills outputOf referenceTo)

variable {nodes : List Node} {n : Node} {slot d : String}

theorem stepIn_inputs : (stepIn nodes n).inputs =
    (Wiring.wire (endpointAt nodes) n (sources nodes n.id)).inputs := rfl

theorem head?_outputs : (stepIn nodes n).outputs.head? = some (outputOf (endpointAt nodes n.id)) := by
  simp only [stepIn, stepOf, outputOf]
  cases endpointAt nodes n.id with
  | none => rfl
  | some e => cases given : e.outputs <;> simp [Endpoint.outputNames, given]

theorem mem_catalog_of_endpointAt {id : String} {e : Endpoint}
    (selects : endpointAt nodes id = some e) : e ∈ Catalog.endpoints := by
  obtain ⟨n, -, selects⟩ := Option.bind_eq_some_iff.mp selects
  obtain ⟨_, -, found⟩ := Option.bind_eq_some_iff.mp selects
  exact List.mem_of_find?_eq_some found

theorem endpointAt_mem (nodes : List Node) (id : String) :
    endpointAt nodes id ∈ none :: Catalog.endpoints.map some := by
  cases selects : endpointAt nodes id with
  | none => exact List.mem_cons_self
  | some e => exact List.mem_cons_of_mem _ (List.mem_map.mpr ⟨e, mem_catalog_of_endpointAt selects, rfl⟩)

theorem parse_outputOf (id : String) :
    Path.parse (outputOf (endpointAt nodes id)) = .ok [.key (outputOf (endpointAt nodes id))] := by
  cases selects : endpointAt nodes id with
  | none => rfl
  | some e => exact Wiring.outputOf_catalog e (mem_catalog_of_endpointAt selects)

/-- Each dependency that is wired into an input of a step stands there as a reference to the first output
of its own step. In every run in which that step has put this output out the reference comes to it,
whatever it is, exactly where the id of the step can be read back from a path: where it has no dot, no
blanks around it and no star at its end, and is spelled like the number that it is if it is all digits. -/
theorem reached_iff_readable {strict : Bool} {name : String} {description : Option String}
    {w : Workflow} (compiled : (compile strict nodes name description).result = .ok w) :
    ∀ n ∈ nodes, ∀ slot d, Fills (endpointAt nodes) n (sources nodes n.id) slot d →
      ∃ s ∈ w.steps, ∃ t ∈ w.steps, s.id = n.id ∧ t.id = d ∧ d ∈ s.dependencies ∧
        ∃ output v, t.outputs.head? = some output ∧ Fields.get? s.inputs slot = some v ∧
          ((∀ (ctx : Context) (entries : Entries) (x : Value),
            Fields.get? ctx.results d = some (.dict entries) →
              Value.lookupText? entries output = some x → v.resolve ctx = .ok x) ↔
            Path.Readable d) := by
  intro n member slot d fills
  obtain ⟨order, perm, rfl⟩ := exists_order_of_result compiled
  obtain ⟨m, source, rfl, -⟩ := mem_sources.mp fills.mem
  refine ⟨stepIn nodes n, (mem_workflowOf perm).mpr ⟨n, member, rfl⟩, stepIn nodes m,
    (mem_workflowOf perm).mpr ⟨m, source, rfl⟩, rfl, rfl, fills.mem,
    outputOf (endpointAt nodes m.id), Wiring.written (endpointAt nodes) m.id, head?_outputs, ?_, ?_⟩
  · rw [stepIn_inputs]
    exact Wiring.get?_wire fills
  · exact Wiring.resolve_referenceTo_iff (parse_outputOf m.id)

/-- Two nodes, the first of which has an id with a dot. -/
def dotted : List Node := [{ id := "a.b", connections := ["c"] }, { id := "c" }]

theorem wellFormed_dotted : WellFormed dotted :=
  wellFormed_two (List.Subset.refl _) rfl (by decide) rfl

theorem dotted_not_reached : ∃ w, (compile true dotted "Dotted" none).result = .ok w ∧
    ∃ n ∈ dotted, Fills (endpointAt dotted) n (sources dotted n.id) "data" "a.b" ∧
      ∃ s ∈ w.steps, s.id = n.id ∧ s.dependencies = ["a.b"] ∧
        Fields.get? s.inputs "data" = some (.text "$steps.a.b.result") ∧
        (Value.text "$steps.a.b.result").resolve
          { results := [("a.b", .dict [(.text "result", .int 5)])] } = .ok .null := by
  obtain ⟨order, -, perm, -, results⟩ := @exists_result dotted "Dotted" none wellFormed_dotted
  have member : ({ id := "c" } : Node) ∈ dotted := List.mem_cons_of_mem _ List.mem_cons_self
  exact ⟨_, results true, _, member, ⟨[], [], rfl, rfl⟩, stepIn dotted { id := "c" },
    (mem_workflowOf perm).mpr ⟨_, member, rfl⟩, rfl, rfl, rfl, rfl⟩

theorem reached_iff_readable_pair : ∃ w, (compile true pair "Pair" none).result = .ok w ∧
    ∃ s ∈ w.steps, s.id = "b" ∧ s.dependencies = ["a"] ∧
      ∃ output v, Fields.get? s.inputs "prompt" = some v ∧
        ∀ (ctx : Context) (entries : Entries) (x : Value),
          Fields.get? ctx.results "a" = some (.dict entries) →
            Value.lookupText? entries output = some x → v.resolve ctx = .ok x := by
  obtain ⟨order, -, perm, -, results⟩ := @exists_result pair "Pair" none wellFormed_pair
  have compiled := results true
  obtain ⟨s, member, t, -, same, -, -, output, v, -, found, reached⟩ := reached_iff_readable compiled
    _ (List.mem_cons_of_mem _ List.mem_cons_self) "prompt" "a" ⟨[], [], rfl, rfl⟩
  obtain ⟨n, -, rfl⟩ := (mem_workflowOf perm).mp member
  have readable : Path.Readable "a" :=
    ⟨by decide, by decide, by decide, fun digits => nomatch digits⟩
  have dependencies : (stepIn pair n).dependencies = ["a"] := by
    show sources pair n.id = ["a"]
    rw [show n.id = "b" from same]
    rfl
  exact ⟨_, compiled, _, member, same, dependencies, output, v, found, reached.mpr readable⟩

end Canvas

end Stepwise
