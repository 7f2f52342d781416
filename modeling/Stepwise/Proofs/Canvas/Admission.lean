import Stepwise.Proofs.Admission
import Stepwise.Proofs.Canvas.Wiring

/-!
Admission of what was compiled: where nothing was drawn into the nodes only the references that the
compiler writes can keep a workflow out.
-/

namespace Stepwise

open Relation (TransGen)

/-! ### Steps that pass by themselves -/

namespace Admission

/-- The configuration is of moderate size and fits a kind of step that has no sub-steps. -/
def suits (kind : StepKind) (config : Fields) : Bool :=
  (match Json.render .lenientPlain (.ofFields config) with
    | .ok text => text.utf8ByteSize ≤ Refusal.maxConfigSize
    | .error _ => false) &&
  match StepConfig.ofFields kind config with
  | .ok (.group _) => false
  | .ok _ => true
  | .error _ => false

variable {s : Step} {kind : StepKind}

theorem checkSize_of_suits (suited : suits kind s.config = true) : checkSize s = .ok () := by
  have sized := (Bool.and_eq_true_iff.mp suited).1
  rw [checkSize]
  cases text : Json.render .lenientPlain (.ofFields s.config) with
  | error e =>
      rw [text] at sized
      cases sized
  | ok t =>
      rw [text] at sized
      have small : ¬Refusal.maxConfigSize < t.utf8ByteSize := Nat.not_lt.mpr (of_decide_eq_true sized)
      exact bind_eq_ok.mpr ⟨t, rfl, if_neg small⟩

theorem checkNames_of_free (free : ∀ name ∈ StepError.reservedNames, name ∉ Fields.names s.inputs) :
    checkNames s = .ok () := by
  have clear : StepError.reservedNames.filter (Fields.has s.inputs) = [] := by
    rw [List.filter_eq_nil_iff]
    exact fun name reserved taken => free name reserved (Fields.has_iff.mp taken)
  rw [checkNames, clear]
  rfl

theorem checkStep_of_suits (named : s.kind = kind.name) (suited : suits kind s.config = true)
    (free : ∀ name ∈ StepError.reservedNames, name ∉ Fields.names s.inputs) : checkStep s = .ok () := by
  have fits := (Bool.and_eq_true_iff.mp suited).2
  have sized := checkSize_of_suits suited
  rw [checkStep, Plan.ofStep]
  simp only [named, StepKind.ofName?_name]
  split
  · rename_i failed
    rw [failed] at fits
    cases fits
  · exact sized
  · exact sized
  · exact bind_eq_ok.mpr ⟨(), sized, checkNames_of_free free⟩
  · rename_i nested
    rw [nested] at fits
    cases fits

end Admission

/-! ### What is written into a step -/

namespace Wiring

variable {endpointOf : String → Option Endpoint} {node : Node} {dependencies : List String} {d : String}

/-- The configuration of a node into which nothing was drawn, and of which this input is wired first. -/
def blankConfig (e : Option Endpoint) (source : Option String) : StepKind × Fields :=
  configOf { id := "" } e (outputOf e) source.toList

theorem configOf_of_blank (inputs : node.inputs = []) (config : node.config = []) (e : Option Endpoint)
    (slots : List String) : configOf node e (outputOf e) slots = blankConfig e slots.head? := by
  simp only [blankConfig, configOf, inputs, config]
  cases slots <;> rfl

theorem suits_blankConfig : ∀ e ∈ none :: Catalog.endpoints.map some,
    ∀ source ∈ none :: ("data" :: (e.map Endpoint.inputNames).getD []).map some,
      Admission.suits (blankConfig e source).1 (blankConfig e source).2 = true := by
  decide +kernel

/-- The references in a value are all to the inputs of the run. -/
def readsInputs (v : Value) : Bool :=
  match Reference.allIn v with
  | .ok references => references.all (·.scope == .input)
  | .error _ => false

theorem catalog_supplies : ∀ e ∈ Catalog.endpoints, ∀ p ∈ e.inputs,
    p.name ∉ StepError.reservedNames ∧ readsInputs (.text ("$input." ++ p.name)) = true ∧
      p.default?.all readsInputs = true := by
  decide +kernel

theorem within_of_readsInputs {known : String → Prop} {v : Value} (reads : readsInputs v = true) :
    ∃ references, Reference.allIn v = .ok references ∧ ∀ r ∈ references, r.Within known := by
  rw [readsInputs] at reads
  cases read : Reference.allIn v with
  | error e =>
      rw [read] at reads
      cases reads
  | ok references =>
      rw [read] at reads
      exact ⟨references, rfl, fun r member => Or.inl (eq_of_beq (List.all_eq_true.mp reads r member))⟩

/-- The reference to an output is to the step that the id begins with, as a path. -/
theorem within_written_iff {known : String → Prop}
    (plain : Path.parse (outputOf (endpointOf d)) = .ok [.key (outputOf (endpointOf d))]) :
    (∃ references, Reference.allIn (written endpointOf d) = .ok references ∧
        ∀ r ∈ references, r.Within known) ↔
      ∃ path head, Path.parse d = .ok path ∧ path.head? = some head ∧ known head := by
  have read := @ofValue_referenceTo d _ plain
  rw [Reference.allIn, written, read]
  cases parsed : Path.parse d with
  | error e =>
      constructor
      · rintro ⟨_, failed, -⟩
        cases failed
      · rintro ⟨_, _, failed, -⟩
        cases failed
  | ok path =>
      have begins : Path.head? (path ++ [.key (outputOf (endpointOf d))]) = Path.head? path :=
        Path.head?_append (Path.ofChars_ne_nil parsed)
      constructor
      · rintro ⟨references, same, within⟩
        cases same
        rcases within _ List.mem_cons_self with wrong | ⟨head, first, listed⟩
        · cases wrong
        · exact ⟨path, head, rfl, begins.symm.trans first, listed⟩
      · rintro ⟨_, head, same, first, listed⟩
        cases same
        refine ⟨_, rfl, ?_⟩
        intro r member
        rw [List.mem_singleton.mp member]
        exact Or.inr ⟨head, begins.trans first, listed⟩

end Wiring

/-! ### Compiled steps -/

namespace Canvas

open Wiring (Fills outputOf blankConfig)

variable {nodes order : List Node} {n : Node} {name : String} {description : Option String}

theorem slots_wire : (Wiring.wire (endpointAt nodes) n (sources nodes n.id)).slots =
    (Wiring.wiredTo (endpointAt nodes) n (sources nodes n.id)).slots := by
  simp only [Wiring.wire, Wiring.wiredTo, Wiring.declaredBy]
  cases endpointAt nodes n.id <;> rfl

theorem suits_source (slots : List String)
    (inside : slots ⊆ "data" :: Wiring.declaredBy (endpointAt nodes) n) :
    Admission.suits (blankConfig (endpointAt nodes n.id) slots.head?).1
      (blankConfig (endpointAt nodes n.id) slots.head?).2 = true := by
  apply Wiring.suits_blankConfig
  · exact endpointAt_mem nodes n.id
  · cases slots with
    | nil => exact List.mem_cons_self
    | cons first rest =>
        exact List.mem_cons_of_mem _ (List.mem_map.mpr ⟨first, inside List.mem_cons_self, rfl⟩)

/-- A node into which nothing was drawn becomes a step that passes by itself. -/
theorem checkStep_stepIn (inputs : n.inputs = []) (config : n.config = []) :
    Admission.checkStep (stepIn nodes n) = .ok () := by
  have configured : Wiring.configOf n (endpointAt nodes n.id)
      ((stepIn nodes n).outputs.head?.getD defaultOutput)
      (Wiring.wire (endpointAt nodes) n (sources nodes n.id)).slots =
      blankConfig (endpointAt nodes n.id)
        (Wiring.wiredTo (endpointAt nodes) n (sources nodes n.id)).slots.head? := by
    rw [head?_outputs, Option.getD_some, slots_wire, Wiring.configOf_of_blank inputs config]
  have kind := congrArg (fun c => StepKind.name c.1) configured
  have fields := congrArg (fun c => c.2) configured
  have suited := suits_source _
    (@Wiring.slots_wiredTo_subset (endpointAt nodes) n (sources nodes n.id))
  apply Admission.checkStep_of_suits kind
  · rw [← fields] at suited
    exact suited
  · intro name reserved taken
    obtain ⟨f, member, rfl⟩ := List.mem_map.mp taken
    rw [stepIn_inputs] at member
    rcases Wiring.name_of_wire inputs member with data | ⟨e, p, selects, among, same⟩
    · rw [data] at reserved
      revert reserved
      decide
    · rw [same] at reserved
      exact (Wiring.catalog_supplies e (mem_catalog_of_endpointAt selects) p among).1 reserved

/-- The references in a step are to the steps that the ids of the wired nodes begin with, as paths. -/
theorem inputs_within_iff {known : String → Prop} (blank : n.inputs = []) :
    (∀ f ∈ (stepIn nodes n).inputs, ∃ references, Reference.allIn f.2 = .ok references ∧
        ∀ r ∈ references, r.Within known) ↔
      ∀ slot d, Fills (endpointAt nodes) n (sources nodes n.id) slot d →
        ∃ path head, Path.parse d = .ok path ∧ path.head? = some head ∧ known head := by
  rw [stepIn_inputs]
  constructor
  · intro within slot d fills
    have member := Fields.mem_of_get? (Wiring.get?_wire fills)
    exact (Wiring.within_written_iff (parse_outputOf d)).mp (within _ member)
  · intro heads f member
    rcases Wiring.mem_wire member with drawn | ⟨d, fills, same⟩ | ⟨e, p, selects, among, -, supplied⟩
    · rw [blank] at drawn
      cases drawn
    · rw [same]
      exact (Wiring.within_written_iff (parse_outputOf d)).mpr (heads f.1 d fills)
    · obtain ⟨-, credential, default⟩ :=
        Wiring.catalog_supplies e (mem_catalog_of_endpointAt selects) p among
      rcases supplied with same | given
      · rw [same]
        exact Wiring.within_of_readsInputs credential
      · rw [given, Option.all_some] at default
        exact Wiring.within_of_readsInputs default

/-- The steps depend on each other as the nodes are connected. -/
theorem dependsOn_workflowOf (leads : Leads (nodes.map (·.id)) nodes) (perm : order.Perm nodes) :
    (workflowOf nodes order name description).DependsOn = Function.swap (Connects nodes) := by
  funext a b
  apply propext
  constructor
  · rintro ⟨s, member, rfl, listed⟩
    obtain ⟨n, -, rfl⟩ := (mem_workflowOf perm).mp member
    exact mem_sources.mp listed
  · intro edge
    have ends := edge
    obtain ⟨m, source, -, listed⟩ := ends
    obtain ⟨n, member, rfl⟩ := List.mem_map.mp (leads m source listed)
    exact ⟨stepIn nodes n, (mem_workflowOf perm).mpr ⟨n, member, rfl⟩, rfl, mem_sources.mpr edge⟩

theorem not_dangles_workflowOf (perm : order.Perm nodes) :
    ¬∃ s d, (workflowOf nodes order name description).Dangles s d := by
  rintro ⟨s, d, member, listed, unknown⟩
  obtain ⟨n, -, rfl⟩ := (mem_workflowOf perm).mp member
  obtain ⟨m, source, rfl, -⟩ := mem_sources.mp listed
  exact unknown _ ((mem_workflowOf perm).mpr ⟨m, source, rfl⟩) rfl

section WellFormed

variable (sound : WellFormed nodes) (perm : order.Perm nodes)
include sound perm

theorem distinct_workflowOf : (workflowOf nodes order name description).Distinct := by
  rw [Workflow.Distinct, ids_workflowOf]
  exact (perm.map _).nodup_iff.mpr sound.distinct

theorem transGen_dependsOn_workflowOf {a b : String} :
    TransGen (workflowOf nodes order name description).DependsOn a b ↔ TransGen (Connects nodes) b a := by
  rw [dependsOn_workflowOf sound.leads perm, Relation.transGen_swap]

theorem acyclic_workflowOf : ¬∃ id, TransGen (workflowOf nodes order name description).DependsOn id id := by
  simp only [transGen_dependsOn_workflowOf sound perm]
  exact sound.acyclic

/-- Of a compiled workflow only its references have to be looked at. -/
theorem check_workflowOf_iff (few : nodes.length ≤ 100)
    (blank : ∀ n ∈ nodes, n.inputs = [] ∧ n.config = []) :
    Admission.check (workflowOf nodes order name description) = .ok () ↔
      ∀ n ∈ nodes, ∀ slot d, Fills (endpointAt nodes) n (sources nodes n.id) slot d →
        ∃ path head, Path.parse d = .ok path ∧ path.head? = some head ∧
          TransGen (Connects nodes) head n.id := by
  have ancestors (id : String) : TransGen (workflowOf nodes order name description).DependsOn id =
      fun head => TransGen (Connects nodes) head id :=
    funext fun _ => propext (transGen_dependsOn_workflowOf sound perm)
  rw [Admission.check_eq_ok_iff_within]
  · simp only [Admission.Declares, ancestors]
    constructor
    · intro within n member
      apply (inputs_within_iff (blank n member).1).mp
      exact within _ ((mem_workflowOf perm).mpr ⟨n, member, rfl⟩)
    · intro heads s member
      obtain ⟨n, drawn, rfl⟩ := (mem_workflowOf perm).mp member
      exact (inputs_within_iff (blank n drawn).1).mpr (heads n drawn)
  · exact fun absent => sound.some (List.map_eq_nil_iff.mp absent ▸ perm).nil_eq.symm
  · show (order.map (stepIn nodes)).length ≤ 100
    rwa [List.length_map, perm.length_eq]
  · exact distinct_workflowOf sound perm
  · intro s member
    obtain ⟨n, drawn, rfl⟩ := (mem_workflowOf perm).mp member
    exact checkStep_stepIn (blank n drawn).1 (blank n drawn).2
  · exact not_dangles_workflowOf perm
  · exact acyclic_workflowOf sound perm

end WellFormed

/-- A workflow that was compiled from at most a hundred nodes, into which nothing was drawn, is admitted
exactly where the id of each node that is wired into another begins, read as a path, with a key that is
the id of a node which that other one depends on. In particular it is admitted where each id that is wired
can be read back and is no number. -/
theorem check_iff_heads {strict : Bool} {w : Workflow}
    (compiled : (compile strict nodes name description).result = .ok w) (few : nodes.length ≤ 100)
    (blank : ∀ n ∈ nodes, n.inputs = [] ∧ n.config = []) :
    (Admission.check w = .ok () ↔ ∀ n ∈ nodes, ∀ slot d,
      Fills (endpointAt nodes) n (sources nodes n.id) slot d →
        ∃ path head, Path.parse d = .ok path ∧ path.head? = some head ∧
          TransGen (Connects nodes) head n.id) ∧
    ((∀ n ∈ nodes, n.connections ≠ [] →
        Path.Readable n.id ∧ Path.isDigits n.id.toList = false) → Admission.check w = .ok ()) := by
  have sound := wellFormed_of_result compiled
  obtain ⟨order, perm, rfl⟩ := exists_order_of_result compiled
  have decided := @check_workflowOf_iff nodes order name description sound perm few blank
  refine ⟨decided, ?_⟩
  intro named
  rw [decided]
  intro n member slot d fills
  obtain ⟨m, source, rfl, listed⟩ := mem_sources.mp fills.mem
  obtain ⟨readable, word⟩ := named m source (List.ne_nil_of_mem listed)
  exact ⟨_, _, Path.parse_of_word readable word, rfl, .single ⟨m, source, rfl, listed⟩⟩

/-- Two nodes whose ids are numbers. -/
def numbered : List Node := [{ id := "1", connections := ["2"] }, { id := "2" }]

theorem wellFormed_numbered : WellFormed numbered :=
  wellFormed_two (List.Subset.refl _) rfl (by decide) rfl

theorem numbered_refused : ∃ w, (compile true numbered "Numbered" none).result = .ok w ∧
    numbered.length ≤ 100 ∧ (∀ n ∈ numbered, n.inputs = [] ∧ n.config = []) ∧
      Admission.check w ≠ .ok () := by
  obtain ⟨order, -, perm, -, results⟩ := @exists_result numbered "Numbered" none wellFormed_numbered
  have blank : ∀ n ∈ numbered, n.inputs = [] ∧ n.config = [] := by simp [numbered]
  refine ⟨_, results true, by decide, blank, ?_⟩
  rw [Ne, check_workflowOf_iff wellFormed_numbered perm (by decide) blank]
  intro heads
  obtain ⟨path, head, read, first, -⟩ :=
    heads { id := "2" } (List.mem_cons_of_mem _ List.mem_cons_self) "data" "1" ⟨[], [], rfl, rfl⟩
  have index : Path.parse "1" = .ok [.index 1] := rfl
  rw [index] at read
  cases read
  cases first

theorem check_iff_heads_pair : ∃ w, (compile true pair "Pair" none).result = .ok w ∧
    Admission.check w = .ok () := by
  obtain ⟨order, -, -, -, results⟩ := @exists_result pair "Pair" none wellFormed_pair
  have blank : ∀ n ∈ pair, n.inputs = [] ∧ n.config = [] := by simp [pair]
  obtain ⟨-, admitted⟩ := check_iff_heads (results true) (by decide) blank
  refine ⟨_, results true, admitted ?_⟩
  intro n member connects
  rcases List.mem_cons.mp member with rfl | second
  · exact ⟨⟨by decide, by decide, by decide, fun digits => nomatch digits⟩, rfl⟩
  · rw [List.mem_singleton.mp second] at connects
    exact absurd rfl connects

end Canvas

end Stepwise
