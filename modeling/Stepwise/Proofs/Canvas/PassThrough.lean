import Stepwise.Proofs.Canvas.Admission
import Stepwise.Proofs.Canvas.Slots
import Stepwise.Proofs.Execution.Reserved
import Stepwise.Proofs.Script.Entry
import Stepwise.Proofs.Value.Data

/-!
Nodes that pass a value through: a node for which there is nothing to call, and no script of its own, is
compiled into a script that puts out the first of its inputs that is wired, or else the first that was
drawn.
-/

namespace Stepwise

/-! ### Scripts of one entry as steps -/

namespace ScriptStep

variable {ctx : Context} {inputs : Fields} {key name : List Char} {script : String} {entries : Entries}

theorem reserved_congr {others : Fields} (same : Fields.names inputs = Fields.names others) :
    reserved inputs = reserved others := by
  refine List.filter_congr fun name _ => ?_
  rw [Bool.eq_iff_iff, Fields.has_iff, Fields.has_iff, same]

theorem run_of_value (blank : Text.allBlank script = false) (free : reserved inputs = [])
    (value : Script.run script (scope ctx inputs) = .ok (.dict entries)) :
    run ctx ⟨script⟩ inputs = .ok entries := by
  rw [run, if_neg (Bool.eq_false_iff.mp blank)]
  dsimp only
  rw [free, value]
  rfl

theorem allBlank_written : Text.allBlank (String.ofList (Script.Token.written key name)) = false := by
  rw [Text.allBlank, String.toList_ofList]
  rfl

theorem not_self_scope (single : "self" ∉ Fields.names inputs) :
    ¬(scope ctx inputs).any (·.1 == "self") = true := by
  rw [List.any_eq_true]
  rintro ⟨f, seen, same⟩
  rw [beq_iff_eq] at same
  rcases List.mem_append.mp seen with given | kept
  · exact single (List.mem_map.mpr ⟨f, (List.mem_filter.mp given).1, same⟩)
  · have reserved : f.1 ∈ StepError.reservedNames := List.mem_map.mpr ⟨f, kept, rfl⟩
    rw [same] at reserved
    exact absurd reserved (by decide)

/-- A script sees an input under its name. -/
theorem resolve_scope {s : String} {v : Value} (apart : Script.isResultForm s = false)
    (other : s ≠ "self") (found : Fields.get? inputs s = some v) :
    Script.resolve (scope ctx inputs) s = v := by
  obtain ⟨f, first, rfl⟩ := Option.map_eq_some_iff.mp found
  have kept : (inputs.filter fun f => !Script.isResultForm f.1).find? (·.1 == s) = some f := by
    rw [List.find?_filter, ← first]
    congr 1
    funext g
    by_cases same : g.1 = s
    · rw [same, apart, beq_self_eq_true]
      rfl
    · rw [beq_false_of_ne same]
      exact decide_eq_false fun both => Bool.false_ne_true both.2
  rw [Script.resolve, if_neg (by rwa [beq_iff_eq]), scope, List.find?_append, kept]
  rfl

end ScriptStep

theorem Plan.ofStep_of_script {s : Step} {script : String} (kind : s.kind = StepKind.script.name)
    (config : s.config = [("script", .text script)]) : Plan.ofStep s = .script ⟨script⟩ := by
  cases s
  cases kind
  cases config
  rw [Plan.ofStep]
  rfl

/-! ### Generated scripts -/

namespace Wiring

open Text (isIdentifier)

variable {endpointOf : String → Option Endpoint} {node : Node} {dependencies : List String}
  {e : Endpoint} {output : String} {source : Option String}

/-- What is put out under the name of the output. -/
def passed : Option String → String
  | some s => if isIdentifier s.toList then s else "none"
  | none => "none"

theorem passThrough_eq_written (output : String) (source : Option String) :
    passThrough output source =
      String.ofList (Script.Token.written output.toList (passed source).toList) := by
  rw [← String.toList_inj, String.toList_ofList]
  cases source <;> simp [passThrough, passed, Script.Token.written]

section Run

variable {ctx : Context} {inputs : Fields} (plain : ∀ c ∈ output.toList, Script.Token.isPlain c = true)
  (free : ScriptStep.reserved inputs = []) (single : "self" ∉ Fields.names inputs)
include plain free single

/-- The script of a name puts the input of this name out. -/
theorem run_passThrough_of_name {s : String} {v : Value} (nameable : Script.Nameable s)
    (found : Fields.get? inputs s = some v) :
    ScriptStep.run ctx ⟨passThrough output (some s)⟩ inputs = .ok [(.text output, v)] := by
  have other : s ≠ "self" := by
    rintro rfl
    rw [Fields.get?_of_not_mem single] at found
    cases found
  have value := Script.run_written_of_name plain nameable (@ScriptStep.not_self_scope ctx inputs single)
  rw [ScriptStep.resolve_scope nameable.apart other found] at value
  rw [passThrough_eq_written, passed, if_pos nameable.identifier]
  exact ScriptStep.run_of_value ScriptStep.allBlank_written free value

/-- The script of no name, or of none that is an identifier, puts nothing out. -/
theorem run_passThrough_of_none
    (other : ∀ s, source = some s → isIdentifier s.toList = false) :
    ScriptStep.run ctx ⟨passThrough output source⟩ inputs = .ok [(.text output, .null)] := by
  have none : passed source = "none" := by
    cases source with
    | none => rfl
    | some s => rw [passed, other s rfl, if_neg Bool.false_ne_true]
  rw [passThrough_eq_written, none]
  exact ScriptStep.run_of_value ScriptStep.allBlank_written free
    (Script.run_written_none plain (ScriptStep.not_self_scope single))

end Run

/-- The endpoints behind which there is nothing to call. -/
def passive : List String := ["db-save-data", "db-query-data", "http-request"]

theorem category_of_passive : ∀ e ∈ Catalog.endpoints, e.id ∈ "transform-data" :: passive →
    e.category = .database ∨ e.category = .external := by
  decide

/-- The input that a node passes through: the first that is wired, or else the first that was drawn. -/
def firstInput (node : Node) (slots : List String) : Option String :=
  slots.head?.or (node.inputs.head?.map (·.1))

theorem configOf_of_passive {slots : List String} (member : e ∈ Catalog.endpoints)
    (passes : e.id ∈ passive) : configOf node (some e) output slots =
      (.script, [("script", .text (passThrough output (firstInput node slots)))]) := by
  have other : e.id ≠ "transform-data" := by
    intro same
    rw [same] at passes
    exact absurd passes (by decide)
  rcases category_of_passive e member (List.mem_cons_of_mem _ passes) with category | category
  · simp only [configOf, category, if_neg other, firstInput]
  · simp only [configOf, category, if_neg other, firstInput]

/-- Without a script of its own a node that reshapes data passes its first input through, if this has a
name. -/
theorem configOf_of_reshapes {slots : List String} (member : e ∈ Catalog.endpoints)
    (reshapes : e.id = "transform-data") (unset : (Fields.getD node.config "script").isTrue = false) :
    ∃ source, configOf node (some e) output slots =
        (.script, [("script", .text (passThrough output source))]) ∧
      ∀ s, firstInput node slots = some s → s ≠ "" → source = some s := by
  have own (v : Value) : trueOr node.config "script" v = v := by
    rw [trueOr, unset, if_neg Bool.false_ne_true]
  rcases category_of_passive e member (List.mem_cons.mpr (Or.inl reshapes)) with category | category
  all_goals
    simp only [configOf, category, if_pos reshapes, own]
    refine ⟨_, rfl, fun s first named => ?_⟩
    rw [firstInput] at first
    rw [first]
    split
    · rename_i same
      exact absurd (Option.some.inj same) named
    · rename_i same
      exact same.symm
    · rename_i same
      cases same

theorem plain_outputOf : ∀ e ∈ none :: Catalog.endpoints.map some,
    (outputOf e).toList.all Script.Token.isPlain = true := by
  decide

/-- A wired input is among the inputs of the step. -/
theorem slots_subset_names :
    (wiredTo endpointOf node dependencies).slots ⊆
      Fields.names (wiredTo endpointOf node dependencies).inputs := by
  induction dependencies using List.reverseRecOn with
  | nil => exact List.nil_subset _
  | append_singleton rest last ih =>
      rw [wiredTo_snoc]
      cases picked : pickSlot (declaredBy endpointOf node) (wiredTo endpointOf node rest).inputs with
      | none =>
          rw [connect_of_full picked, connect, picked]
          exact ih
      | some slot =>
          rw [connect_of_picked picked, Fields.names_append, connect, picked]
          refine List.append_subset.mpr ⟨fun name listed => ?_, fun name listed => ?_⟩
          · exact List.mem_append_left _ (ih listed)
          · exact List.mem_append_right _ listed

end Wiring

/-! ### Compiled steps -/

namespace Canvas

open Script (Nameable)
open Text (isIdentifier)
open Wiring (outputOf passThrough passed passive)

variable {nodes order : List Node} {n : Node} {strict : Bool} {name : String}
  {description : Option String} {w : Workflow}

/-- The node is to reshape data, by a script of its own if it has one. -/
def Reshapes (n : Node) : Prop := ∃ e, selected n = some e ∧ e.id = "transform-data"

/-- The script of the node is left to the compiler. -/
def Generated (n : Node) : Prop :=
  selected n = none ∨ (∃ e, selected n = some e ∧ e.id ∈ passive) ∨
    Reshapes n ∧ (Fields.getD n.config "script").isTrue = false

/-- The input that a node passes through. -/
def sourceOf (nodes : List Node) (n : Node) : Option String :=
  Wiring.firstInput n (Wiring.wire (endpointAt nodes) n (sources nodes n.id)).slots

theorem sourceOf_mem (distinct : (nodes.map (·.id)).Nodup) (member : n ∈ nodes) {s : String}
    (source : sourceOf nodes n = some s) : s ∈ Fields.names (stepIn nodes n).inputs := by
  obtain ⟨wired, unwired, wires, -⟩ := exists_wires_sources nodes n
  rw [inputs_stepIn distinct member, Fields.names_append]
  refine List.mem_append_left _ ?_
  rw [sourceOf, Wiring.firstInput, slots_wire, Option.or_eq_some_iff] at source
  rcases source with slot | ⟨-, drawn⟩
  · exact Wiring.slots_subset_names (List.mem_of_mem_head? slot)
  · obtain ⟨f, first, rfl⟩ := Option.map_eq_some_iff.mp drawn
    rw [wires.names]
    exact List.mem_append_left _ (List.mem_map.mpr ⟨f, List.mem_of_mem_head? first, rfl⟩)

/-- If the node is to reshape data, it has an input to pass through, and this has a name. -/
def Sourced (nodes : List Node) (n : Node) : Prop :=
  Reshapes n → ∃ s, sourceOf nodes n = some s ∧ s ≠ ""

theorem exists_configOf (distinct : (nodes.map (·.id)).Nodup) (member : n ∈ nodes)
    (generated : Generated n) : ∃ source,
      Wiring.configOf n (endpointAt nodes n.id) (outputOf (endpointAt nodes n.id))
          (Wiring.wire (endpointAt nodes) n (sources nodes n.id)).slots =
        (.script, [("script", .text (passThrough (outputOf (endpointAt nodes n.id)) source))]) ∧
        (Sourced nodes n → source = sourceOf nodes n) := by
  have selects := endpointAt_of_mem distinct member
  rw [selects]
  rcases generated with none | ⟨e, some, passes⟩ | ⟨⟨e, some, reshapes⟩, unset⟩
  · rw [none]
    exact ⟨_, rfl, fun _ => rfl⟩
  · rw [some]
    exact ⟨_, Wiring.configOf_of_passive (mem_catalog_of_endpointAt (selects.trans some)) passes,
      fun _ => rfl⟩
  · rw [some]
    obtain ⟨source, configured, named⟩ := Wiring.configOf_of_reshapes
      (mem_catalog_of_endpointAt (selects.trans some)) reshapes unset
    refine ⟨source, configured, fun sourced => ?_⟩
    obtain ⟨s, first, filled⟩ := sourced ⟨e, some, reshapes⟩
    rw [first]
    exact named s first filled

/-- The step of such a node has a script that passes something through. -/
theorem exists_passThrough (distinct : (nodes.map (·.id)).Nodup) (member : n ∈ nodes)
    (generated : Generated n) : ∃ source,
      Plan.ofStep (stepIn nodes n) = .script ⟨passThrough (outputOf (endpointAt nodes n.id)) source⟩ ∧
        (Sourced nodes n → source = sourceOf nodes n) := by
  obtain ⟨source, configured, sourced⟩ := exists_configOf distinct member generated
  have kept : Wiring.configOf n (endpointAt nodes n.id)
      ((stepIn nodes n).outputs.head?.getD defaultOutput)
      (Wiring.wire (endpointAt nodes) n (sources nodes n.id)).slots =
      (.script, [("script", .text (passThrough (outputOf (endpointAt nodes n.id)) source))]) := by
    rw [head?_outputs, Option.getD_some, configured]
  have kind : (stepIn nodes n).kind = StepKind.script.name := congrArg (fun c => c.1.name) kept
  have config : (stepIn nodes n).config =
      [("script", .text (passThrough (outputOf (endpointAt nodes n.id)) source))] :=
    congrArg (fun c => c.2) kept
  exact ⟨source, Plan.ofStep_of_script kind config, sourced⟩

theorem plain_output (id : String) : ∀ c ∈ (outputOf (endpointAt nodes id)).toList,
    Script.Token.isPlain c = true :=
  List.all_eq_true.mp (Wiring.plain_outputOf _ (endpointAt_mem nodes id))

/-- A node whose script is left to the compiler becomes a step that passes its source through: whatever
values its inputs have, it puts out one value, under its first declared output. This is the value of the
source, which then is among the inputs, where scripts read it as a name; and it is nothing where there is
no source or its name is no identifier. What scripts keep for themselves comes first: a step that has an
input under such a name fails, and tells which. Left out are steps with an input `self`, and nodes that
are to reshape data and have no source. -/
theorem passes_through
    (compiled : (compile strict nodes name description).result = .ok w) :
    ∀ n ∈ nodes, Generated n → (∃ s ∈ w.steps, s.id = n.id) ∧ ∀ s ∈ w.steps, s.id = n.id →
      ∃ output, s.outputs.head? = some output ∧
        ∀ (world : World) (ctx : Context) (inputs : Fields), Fields.names inputs = Fields.names s.inputs →
          (ScriptStep.reserved s.inputs ≠ [] →
            ((Plan.ofStep s).execute world ctx s inputs).run.value =
              .error (.reservedInputs (ScriptStep.reserved s.inputs))) ∧
          (ScriptStep.reserved s.inputs = [] → "self" ∉ Fields.names s.inputs → Sourced nodes n →
            (∀ source, sourceOf nodes n = some source → Nameable source →
              ∃ v, Fields.get? inputs source = some v ∧
                ((Plan.ofStep s).execute world ctx s inputs).run.value = .ok [(.text output, v)]) ∧
            ((∀ source, sourceOf nodes n = some source → isIdentifier source.toList = false) →
              ((Plan.ofStep s).execute world ctx s inputs).run.value = .ok [(.text output, .null)])) := by
  have sound := wellFormed_of_result compiled
  obtain ⟨order, perm, rfl⟩ := exists_order_of_result compiled
  intro n member generated
  refine ⟨⟨stepIn nodes n, (mem_workflowOf perm).mpr ⟨n, member, rfl⟩, rfl⟩, ?_⟩
  intro s step same
  obtain ⟨m, among, rfl⟩ := (mem_workflowOf perm).mp step
  obtain rfl : m = n := List.inj_on_of_nodup_map sound.distinct among member same
  refine ⟨outputOf (endpointAt nodes m.id), head?_outputs, fun world ctx inputs names => ?_⟩
  obtain ⟨source, planned, sourced⟩ := exists_passThrough sound.distinct member generated
  rw [planned, Plan.value_execute_script, ← ScriptStep.reserved_congr names, ← names]
  refine ⟨fun shadowed => ?_, fun free single first => ?_⟩
  · rw [Step.run_eq_reservedInputs_iff, Wiring.passThrough_eq_written]
    exact ⟨ScriptStep.allBlank_written, rfl, shadowed⟩
  · rw [sourced first]
    have plain := @plain_output nodes m.id
    refine ⟨fun source taken nameable => ?_, Wiring.run_passThrough_of_none plain free single⟩
    have listed := sourceOf_mem sound.distinct member taken
    rw [← names, ← Fields.has_iff, Fields.has_eq_isSome, Option.isSome_iff_exists] at listed
    obtain ⟨v, found⟩ := listed
    rw [taken]
    exact ⟨v, found, Wiring.run_passThrough_of_name plain free single nameable found⟩

/-! ### A node that passes a value on, and one that is stopped -/

/-- A node that flows to another, which has an input of its own or none. -/
def relay (inputs : Fields) : List Node :=
  [{ id := "a", connections := ["b"] }, { id := "b", inputs }]

theorem wellFormed_relay (inputs : Fields) : WellFormed (relay inputs) :=
  wellFormed_two (List.Subset.refl _) rfl (show "a" ≠ "b" by decide) rfl

theorem passes_through_relay : ∃ w, (compile true (relay []) "Relay" none).result = .ok w ∧
    ∃ s ∈ w.steps, s.id = "b" ∧ ∀ (world : World) (ctx : Context) (v : Value),
      ((Plan.ofStep s).execute world ctx s [("data", v)]).run.value = .ok [(.text "result", v)] := by
  obtain ⟨order, -, perm, -, results⟩ := @exists_result (relay []) "Relay" none (wellFormed_relay [])
  have member : ({ id := "b" } : Node) ∈ relay [] := List.mem_cons_of_mem _ List.mem_cons_self
  have step := (@mem_workflowOf _ _ "Relay" none perm _).mpr ⟨_, member, rfl⟩
  obtain ⟨-, passes⟩ := passes_through (results true) _ member (Or.inl rfl)
  obtain ⟨output, first, executed⟩ := passes _ step rfl
  cases first
  refine ⟨_, results true, _, step, rfl, fun world ctx v => ?_⟩
  obtain ⟨-, free⟩ := executed world ctx [("data", v)] rfl
  obtain ⟨named, -⟩ := free (by decide) (by decide) (by rintro ⟨e, some, -⟩; cases some)
  have ascii : Script.Nameable "data" :=
    Script.nameable_of_ascii (by decide) (by decide) (by decide)
  obtain ⟨_, found, done⟩ := named "data" rfl ascii
  cases found
  exact done

/-- The canvas is compiled, but the step of its second node is stopped for the name of its input. -/
theorem relay_stopped : ∃ w, (compile true (relay [("steps", .int 1)]) "Relay" none).result = .ok w ∧
    ∃ n ∈ relay [("steps", .int 1)], Generated n ∧ ∃ s ∈ w.steps, s.id = n.id ∧
      ∃ inputs, Fields.names inputs = Fields.names s.inputs ∧ (∀ f ∈ inputs, f.2.Data) ∧
        ∀ (world : World) (ctx : Context), ((Plan.ofStep s).execute world ctx s inputs).run.value =
          .error (.reservedInputs ["steps"]) := by
  have sound := wellFormed_relay [("steps", .int 1)]
  obtain ⟨order, -, perm, -, results⟩ := @exists_result _ "Relay" none sound
  have member : ({ id := "b", inputs := [("steps", .int 1)] } : Node) ∈ relay [("steps", .int 1)] :=
    List.mem_cons_of_mem _ List.mem_cons_self
  have generated : Generated { id := "b", inputs := [("steps", .int 1)] } := Or.inl rfl
  refine ⟨_, results true, _, member, generated, _, (mem_workflowOf perm).mpr ⟨_, member, rfl⟩, rfl,
    [("steps", .int 1), ("data", .int 5)], rfl, ?_, fun world ctx => ?_⟩
  · exact List.forall_mem_cons.mpr ⟨.int 1, List.forall_mem_singleton.mpr (.int 5)⟩
  · obtain ⟨source, planned, -⟩ := exists_passThrough sound.distinct member generated
    rw [planned, Plan.value_execute_script, Step.run_eq_reservedInputs_iff,
      Wiring.passThrough_eq_written]
    exact ⟨ScriptStep.allBlank_written, rfl, List.cons_ne_nil _ _⟩

end Canvas

end Stepwise
