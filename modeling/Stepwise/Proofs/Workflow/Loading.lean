import Stepwise.Proofs.Execution.Nesting
import Stepwise.Proofs.Json.Data
import Stepwise.Repository.Stored

/-!
Workflows that are loaded from data of the forms of JSON hold such data, also in the sub-steps of
groups at any depth.
-/

namespace Stepwise

open Schema

def Fields.OfJson (fields : Fields) : Prop := ∀ f ∈ fields, f.2.OfJson

def Step.OfJson (s : Step) : Prop := s.inputs.OfJson ∧ s.config.OfJson

def Workflow.OfJson (w : Workflow) : Prop :=
  (∀ s ∈ w.steps, s.OfJson) ∧ ∀ t ∈ w.triggers, t.config.OfJson

/-! ### Readers -/

namespace Schema

variable {α : Type} {reader : Reader α} {P : α → Prop} {entries : Entries} {name : String} {a : α}

/-- What the reader reads from data of the forms of JSON has a property. -/
def Gives (reader : Reader α) (P : α → Prop) : Prop := ∀ v a, v.OfJson → reader v = .ok a → P a

theorem ofJson_of_lookupText? {v : Value} (held : (Value.dict entries).OfJson)
    (found : Value.lookupText? entries name = some v) : v.OfJson := by
  obtain ⟨key, member⟩ := Value.mem_of_lookup? found
  cases held with
  | dict keys all => exact all _ member

theorem Gives.of_field {default : α} (gives : Gives reader P) (byDefault : P default)
    (held : (Value.dict entries).OfJson) (read : field entries name default reader = .ok a) : P a := by
  rcases field_eq_ok read with rfl | ⟨v, found, read⟩
  · exact byDefault
  · exact gives v a (ofJson_of_lookupText? held found) read

theorem Gives.of_required (gives : Gives reader P) (held : (Value.dict entries).OfJson)
    (read : required entries name reader = .ok a) : P a := by
  unfold required at read
  split at read
  · rename_i v found
    exact gives v a (ofJson_of_lookupText? held found) (under_eq_ok.mp read)
  · cases read

theorem Gives.record {form : RecordForm} {read : Entries → Loaded α}
    (gives : ∀ entries a, (Value.dict entries).OfJson → read entries = .ok a → P a) :
    Gives (record form read) P := by
  intro v a held done
  unfold Schema.record at done
  split at done
  · exact gives _ a held done
  · cases done

theorem Gives.list (gives : Gives reader P) : Gives (list reader) fun read => ∀ a ∈ read, P a := by
  intro v read held done a member
  cases held with
  | @list items all =>
      obtain ⟨w, inside, one⟩ := exists_of_readItems done a member
      exact gives w a (all w inside) one
  | _ => cases done

theorem Gives.optional (gives : Gives reader P) :
    Gives (optional reader) fun read? => ∀ a ∈ read?, P a := by
  intro v read? held done a member
  unfold Schema.optional at done
  split at done
  · cases done
    cases member
  · obtain ⟨b, one, rfl⟩ := map_eq_ok.mp done
    cases member
    exact gives v a held one

theorem gives_mapping : Gives mapping Fields.OfJson := by
  intro v fields held done
  cases held with
  | @dict entries keys all =>
      change readMembers entries = .ok fields at done
      clear keys
      induction entries generalizing fields with
      | nil =>
          cases done
          exact List.forall_mem_nil _
      | cons e rest ih =>
          obtain ⟨here, later⟩ := List.forall_mem_cons.mp all
          obtain ⟨g, others, first, second, rfl⟩ := seq_eq_ok.mp done
          obtain ⟨n, -, rfl⟩ := map_eq_ok.mp first
          exact List.forall_mem_cons.mpr ⟨here, ih others later second⟩
  | _ => cases done

end Schema

/-! ### Steps and workflows -/

theorem Step.inputs_of_ofEntries {entries : Entries} {s : Step} (read : Step.ofEntries entries = .ok s) :
    field entries "inputs" [] mapping = .ok s.inputs := by
  obtain ⟨_, _, all, -, rfl⟩ := seq_eq_ok.mp read
  obtain ⟨_, _, upToConfig, -, rfl⟩ := seq_eq_ok.mp all
  obtain ⟨_, _, upToOutputs, -, rfl⟩ := seq_eq_ok.mp upToConfig
  obtain ⟨_, _, upToInputs, inputs, rfl⟩ := seq_eq_ok.mp upToOutputs
  obtain ⟨_, _, upToName, -, rfl⟩ := seq_eq_ok.mp upToInputs
  obtain ⟨_, _, upToKind, -, rfl⟩ := seq_eq_ok.mp upToName
  obtain ⟨_, -, rfl⟩ := map_eq_ok.mp upToKind
  exact inputs

theorem Step.gives_reader (document : Bool) : Gives (Step.reader document) Step.OfJson := by
  apply Gives.record
  intro entries s held read
  exact ⟨gives_mapping.of_field (List.forall_mem_nil _) held (Step.inputs_of_ofEntries read),
    gives_mapping.of_field (List.forall_mem_nil _) held (Step.config_of_ofEntries read)⟩

theorem Trigger.gives_reader (document : Bool) :
    Gives (Trigger.reader document) fun t => t.config.OfJson := by
  apply Gives.record
  intro entries t held read
  obtain ⟨_, _, kind, config, rfl⟩ := seq_eq_ok.mp read
  obtain ⟨_, -, rfl⟩ := map_eq_ok.mp kind
  exact gives_mapping.of_field (List.forall_mem_nil _) held config

theorem Workflow.gives_reader (document : Bool) : Gives (Workflow.reader document) Workflow.OfJson := by
  apply Gives.record
  intro entries w held read
  obtain ⟨_, _, upToSteps, triggers, rfl⟩ := seq_eq_ok.mp read
  obtain ⟨_, _, upToDescription, steps, rfl⟩ := seq_eq_ok.mp upToSteps
  obtain ⟨_, _, upToVersion, -, rfl⟩ := seq_eq_ok.mp upToDescription
  obtain ⟨_, _, upToName, -, rfl⟩ := seq_eq_ok.mp upToVersion
  obtain ⟨_, _, upToId, -, rfl⟩ := seq_eq_ok.mp upToName
  obtain ⟨_, -, rfl⟩ := map_eq_ok.mp upToId
  exact ⟨(Step.gives_reader document).list.of_field (List.forall_mem_nil _) held steps,
    (Trigger.gives_reader document).list.of_field (List.forall_mem_nil _) held triggers⟩

/-! ### Sub-steps -/

theorem Fields.ofJson_dict {fields : Fields} (held : fields.OfJson) :
    (Value.dict (fields.map fun f => (.text f.1, f.2))).OfJson := Value.ofJson_ofFields held

theorem StepConfig.steps_of_ofFields {kind : StepKind} {fields : Fields} {c : GroupConfig}
    (read : StepConfig.ofFields kind fields = .ok (.group c)) :
    field (fields.map fun f => (.text f.1, f.2)) "steps" [] (list (Step.reader false)) =
      .ok c.steps := by
  unfold StepConfig.ofFields at read
  split at read
  · rename_i config entries
    cases read
    cases kind with
    | group =>
        obtain ⟨_, read, same⟩ := map_eq_ok.mp entries
        cases same
        obtain ⟨_, _, members, -, rfl⟩ := seq_eq_ok.mp read
        obtain ⟨_, known, rfl⟩ := map_eq_ok.mp members
        obtain ⟨_, steps, rfl⟩ := map_eq_ok.mp known
        exact steps
    | _ =>
        obtain ⟨_, -, same⟩ := map_eq_ok.mp entries
        cases same
  · cases read

/-- The sub-steps of a step of such data are of such data, at any depth. -/
theorem Plan.Nests.ofJson {s t : Step} {plan : Plan} (nested : (Plan.ofStep s).Nests t plan)
    (held : s.OfJson) : t.OfJson := by
  generalize whole : Plan.ofStep s = first at nested
  have direct {s t : Step} {subs : List (Step × Plan)} {plan : Plan} (held : s.OfJson)
      (planned : Plan.ofStep s = .group subs) (member : (t, plan) ∈ subs) :
      t.OfJson ∧ Plan.ofStep t = plan := by
    obtain ⟨kind, config, read, rfl⟩ := Plan.config_of_ofStep_group planned
    obtain ⟨u, inside, same⟩ := List.mem_map.mp member
    cases same
    exact ⟨(Step.gives_reader false).list.of_field (List.forall_mem_nil _) (Fields.ofJson_dict held.2)
      (StepConfig.steps_of_ofFields read) t inside, rfl⟩
  induction nested generalizing s with
  | direct member => exact (direct held whole member).1
  | deeper member further ih =>
      obtain ⟨inner, planned⟩ := direct held whole member
      exact ih inner planned

/-! ### Back as values -/

theorem Value.ofJson_texts (items : List String) : (Value.texts items).OfJson := by
  refine .list ?_
  intro v member
  obtain ⟨s, -, rfl⟩ := List.mem_map.mp member
  exact .text s

theorem Step.ofJson_toValue {s : Step} (held : s.OfJson) : s.toValue.OfJson := by
  apply Value.ofJson_ofFields
  simp only [List.forall_mem_cons]
  exact ⟨.text _, .text _, .text _, Value.ofJson_ofFields held.1, Value.ofJson_texts _,
    Value.ofJson_ofFields held.2, Value.ofJson_texts _, List.forall_mem_nil _⟩

theorem Workflow.ofJson_toValue {w : Workflow} (held : w.OfJson) : w.toValue.OfJson := by
  apply Value.ofJson_ofFields
  simp only [List.forall_mem_cons]
  refine ⟨.text _, .text _, .text _, .text _, .list ?_, .list ?_, List.forall_mem_nil _⟩
  · intro v member
    obtain ⟨s, inside, rfl⟩ := List.mem_map.mp member
    exact Step.ofJson_toValue (held.1 s inside)
  · intro v member
    obtain ⟨t, inside, rfl⟩ := List.mem_map.mp member
    apply Value.ofJson_ofFields
    simp only [List.forall_mem_cons]
    exact ⟨.text _, Value.ofJson_ofFields (held.2 t inside), List.forall_mem_nil _⟩

/-- A stored workflow of such data is a value of such data, however its moments are written. -/
theorem Stored.ofJson_toValue {s : Stored} (written : Moment → String) (held : s.definition.OfJson)
    (drawn : ∀ drawing ∈ s.drawing, Fields.OfJson drawing) : (s.toValue written).OfJson := by
  have moment (m? : Option Moment) :
      ((m?.map fun m => Value.text (written m)).getD .null).OfJson := by
    cases m? with
    | none => exact .null
    | some m => exact .text _
  apply Value.ofJson_ofFields
  simp only [List.forall_mem_cons]
  refine ⟨.text _, .text _, .text _, ?_, .text _, Workflow.ofJson_toValue held, ?_, moment _,
    moment _, List.forall_mem_nil _⟩
  · cases s.description with
    | none => exact .null
    | some description => exact .text _
  · cases drawing : s.drawing with
    | none => exact .null
    | some fields => exact Value.ofJson_ofFields (drawn fields drawing)

end Stepwise
