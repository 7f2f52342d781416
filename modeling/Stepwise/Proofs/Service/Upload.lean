import Stepwise.Proofs.Admission.Faults
import Stepwise.Proofs.Execution.Engine
import Stepwise.Proofs.Workflow.Loading
import Stepwise.Service.Handling

/-!
Uploads: how the service answers follows from the admission of the definition. An upload is data of the
forms of JSON, so that its admission can fault at a misnumbered reference only, and the service is at
fault exactly there.
-/

namespace Stepwise

open Schema

/-! ### Admissions of such data -/

namespace Admission

variable {w : Workflow}

/-- Every configuration of such data has a text, at every depth. -/
theorem not_stepFaults (held : w.OfJson) : ¬StepFaults w := by
  have writable {s : Step} (held : s.OfJson) : ¬Unwritable s := by
    rintro ⟨f, failed⟩
    obtain ⟨text, written⟩ :=
      Json.exists_write_of_ofJson (Value.ofJson_ofFields held.2) .lenientPlain rfl 0
    rw [Json.render, written] at failed
    cases failed
  have sound {s : Step} {plan : Plan} (faults : Faults s plan) (held : s.OfJson)
      (nested : ∀ t last, plan.Nests t last → t.OfJson) : False := by
    induction faults with
    | config known unwritable => exact writable held unwritable
    | inner passed before further ih =>
        apply ih
        · exact nested _ _ (.direct (List.mem_append_right _ List.mem_cons_self))
        · intro t last inner
          exact nested t last (.deeper (List.mem_append_right _ List.mem_cons_self) inner)
  rintro ⟨front, s, back, split, -, -, faults⟩
  have held : s.OfJson := held.1 s (split ▸ List.mem_append_right front List.mem_cons_self)
  exact sound faults held fun t last nested => nested.ofJson held

/-- An admission of such data faults exactly if a reference does. -/
theorem exists_check_eq_fault_iff_of_ofJson (held : w.OfJson) :
    (∃ f, check w = .error (.fault f)) ↔
      w.steps ≠ [] ∧ w.steps.length ≤ Refusal.maxSteps ∧ ReferenceFaults w := by
  rw [exists_check_eq_fault_iff, or_iff_right (not_stepFaults held)]

end Admission

/-! ### Uploads -/

theorem Body.ofJson_of_ofRequest {r : Request} {v : Value} (read : Body.ofRequest r = .content v) :
    v.OfJson := by
  unfold Body.ofRequest at read
  split_ifs at read
  · cases read
    exact .text _
  · split at read
    · rename_i parsed
      cases read
      exact Json.ofJson_of_parse parsed
    · split at read
      · cases read
      · cases read

def Upload.OfJson (u : Upload) : Prop :=
  u.definition.OfJson ∧ ∀ drawing ∈ u.drawing, Fields.OfJson drawing

theorem Upload.gives_reader : Gives Upload.reader Upload.OfJson := by
  apply Gives.record
  intro entries u held read
  obtain ⟨_, _, upToDefinition, drawing, rfl⟩ := seq_eq_ok.mp read
  obtain ⟨_, _, upToDescription, definition, rfl⟩ := seq_eq_ok.mp upToDefinition
  obtain ⟨_, _, upToName, -, rfl⟩ := seq_eq_ok.mp upToDescription
  obtain ⟨_, _, upToKey, -, rfl⟩ := seq_eq_ok.mp upToName
  obtain ⟨_, -, rfl⟩ := map_eq_ok.mp upToKey
  exact ⟨(Workflow.gives_reader true).of_required held definition,
    gives_mapping.optional.of_field (fun _ absent => absurd absent (Option.not_mem_none _)) held drawing⟩

theorem Body.ofJson_of_require {r : Request} {u : Upload}
    (read : (Body.ofRequest r).require Upload.reader = .ok u) : u.OfJson := by
  unfold Body.require Body.read at read
  dsimp only at read
  split at read
  · cases read
  · rename_i v body
    split at read
    · rename_i loaded
      cases read
      exact Upload.gives_reader v u (Body.ofJson_of_ofRequest body) loaded
    · cases read
  · cases read
  · cases read

namespace Service

variable {s : Service} {r : Request} {u : Upload}

/-- What is stored of an upload is the upload, under names and with moments of its own. -/
theorem ofJson_save (s : Service) (held : u.OfJson) : (s.save u.toStored).1.toDocument.OfJson := by
  have stamped (supply : Supply) (existing? : Option Stored) :
      (u.toStored.stamp supply existing?).1.definition = u.definition ∧
        (u.toStored.stamp supply existing?).1.drawing = u.drawing := by
    cases existing? with
    | none => exact ⟨rfl, rfl⟩
    | some existing => exact ⟨rfl, rfl⟩
  obtain ⟨definition, drawing⟩ := stamped s.supply (s.repository.existing? u.toStored)
  apply Stored.ofJson_toValue
  · exact definition ▸ held.1
  · exact drawing ▸ held.2

/-- What the service makes of an upload. It is at fault where the admission is. -/
theorem respond_upload (routed : Routing.ofRequest r = .found .upload)
    (read : (Body.ofRequest r).require Upload.reader = .ok u) :
    ∃ document, (s.respond r).value = match Admission.check u.definition with
      | .ok () => (.answer document, (s.save u.toStored).2)
      | .error (.fault _) => (.broken, s)
      | .error refusal => (.refused (.unacceptable refusal.message), s) := by
  obtain ⟨document, written⟩ :=
    Json.exists_document_of_ofJson (ofJson_save s (Body.ofJson_of_require read))
  refine ⟨document, ?_⟩
  have handled : (s.respond r).value = s.settle (s.upload (.ofRequest r)) := by
    rw [respond, routed]
    rfl
  rw [handled, upload, read]
  dsimp only [bind, Except.bind]
  cases Admission.check u.definition with
  | error refusal => cases refusal <;> rfl
  | ok verdict =>
      simp only [say, Response.ofValue, written]
      rfl

/-- An admission ends with a verdict but where a configuration has no text or a reference is
misnumbered. In an upload every configuration has a text: the service keeps what is admitted, refuses
what is not, and is at fault exactly at a misnumbered reference. -/
theorem verdict_of_upload (w : Workflow) (s : Service) (r : Request) (u : Upload) :
    ((∃ f, Admission.check w = .error (.fault f)) ↔
      w.steps ≠ [] ∧ w.steps.length ≤ Refusal.maxSteps ∧
        (Admission.StepFaults w ∨ Admission.ReferenceFaults w)) ∧
    (Routing.ofRequest r = .found .upload → (Body.ofRequest r).require Upload.reader = .ok u →
      ∃ response after, (s.respond r).value = (response, after) ∧
        (response.status = 200 ↔ Admission.check u.definition = .ok ()) ∧
        (response.status = 400 ↔
          ∃ refusal, Admission.check u.definition = .error refusal ∧ ∀ f, refusal ≠ .fault f) ∧
        (response.status = 500 ↔ u.definition.steps ≠ [] ∧
          u.definition.steps.length ≤ Refusal.maxSteps ∧ Admission.ReferenceFaults u.definition) ∧
        (response.status ≠ 200 → after = s)) := by
  refine ⟨Admission.exists_check_eq_fault_iff, ?_⟩
  intro routed read
  obtain ⟨document, answered⟩ := respond_upload (s := s) routed read
  have held := Body.ofJson_of_require read
  rw [← Admission.exists_check_eq_fault_iff_of_ofJson held.1]
  cases checked : Admission.check u.definition with
  | ok verdict =>
      rw [checked] at answered
      refine ⟨_, _, answered, iff_of_true rfl rfl, ?_, ?_, fun other => absurd rfl other⟩
      · exact iff_of_false (by rintro ⟨⟩) (by rintro ⟨_, ⟨⟩, _⟩)
      · exact iff_of_false (by rintro ⟨⟩) (by rintro ⟨_, ⟨⟩⟩)
  | error refusal =>
      rw [checked] at answered
      by_cases fault : ∃ f, refusal = .fault f
      · obtain ⟨f, rfl⟩ := fault
        refine ⟨_, _, answered, ?_, ?_, iff_of_true rfl ⟨f, rfl⟩, fun _ => rfl⟩
        · exact iff_of_false (by rintro ⟨⟩) (by rintro ⟨⟩)
        · refine iff_of_false (by rintro ⟨⟩) ?_
          rintro ⟨_, same, other⟩
          cases same
          exact other f rfl
      -- Which refusal it is makes no difference to the answer, so long as it is not a fault.
      · have other : ∀ f, refusal ≠ .fault f := fun f same => fault ⟨f, same⟩
        have refused : (s.respond r).value =
            (.refused (.unacceptable refusal.message), s) := by
          cases refusal with
          | fault f => exact absurd rfl (other f)
          | _ => exact answered
        refine ⟨_, _, refused, ?_, iff_of_true rfl ⟨refusal, rfl, other⟩, ?_, fun _ => rfl⟩
        · exact iff_of_false (by rintro ⟨⟩) (by rintro ⟨⟩)
        · refine iff_of_false (by rintro ⟨⟩) ?_
          rintro ⟨f, same⟩
          exact other f (Except.error.inj same)

/-! ### An index that is no number -/

/-- A workflow of one sound step faults if the only input of the step is misnumbered. -/
theorem referenceFaults_of_single {w : Workflow} {step : Step} {name : String} {v : Value}
    (alone : w.steps = [step]) (free : step.dependencies = [])
    (passed : Admission.checkStep step = .ok ()) (given : step.inputs = [(name, v)])
    (wrong : v.Misnumbered) : Admission.ReferenceFaults w := by
  have only {t : Step} (member : t ∈ w.steps) : t = step := by
    rw [alone] at member
    exact List.mem_singleton.mp member
  have independent {a b : String} : ¬w.DependsOn a b := by
    rintro ⟨t, member, -, listed⟩
    rw [only member, free] at listed
    cases listed
  refine ⟨?_, fun t member => only member ▸ passed, ?_, ?_, [], step, [], [], (name, v), [], alone,
    given, List.forall_mem_nil _, List.forall_mem_nil _, wrong⟩
  · rw [Workflow.Distinct, alone]
    exact List.nodup_singleton _
  · rintro ⟨t, d, member, listed, -⟩
    exact independent ⟨t, member, rfl, listed⟩
  · rintro ⟨id, cycle⟩
    obtain ⟨_, edge, -⟩ := Relation.TransGen.head'_iff.mp cycle
    exact independent edge

/-- A service that has done nothing yet. -/
def fresh : Service :=
  { world := Engine.silent
    supply := { moment := fun _ => default, id := fun _ => "workflow" }
    history := Engine.single
    runId := fun _ => "run"
    now := default }

/-- The upload of a workflow of one step, which refers to a member of the inputs of the run under a
superscript two: a digit that is no decimal digit. -/
def squared : Request :=
  { method := .put
    path := "/workflows"
    body := "\x7b\"definition\": \x7b\"id\": \"wf\", \"name\": \"wf\", \"steps\": [\x7b\"id\": \"a\", " ++
      "\"type\": \"transform\", \"inputs\": \x7b\"x\": \"$input.²\"\x7d\x7d]\x7d\x7d" }

theorem misnumbered_square : (Value.text "$input.²").Misnumbered := by
  refine ⟨_, rfl, ['²'], by decide +kernel, ['²'], by decide +kernel, by decide +kernel, Or.inl ?_⟩
  exact ⟨'²', by decide +kernel, by decide +kernel⟩

/-- The only step of a workflow, the only input of it and the text that is given for it. -/
def soleInput? (w : Workflow) : Option (Step × String × String) :=
  match w.steps with
  | [step] =>
      match step.inputs with
      | [(name, .text s)] => some (step, name, s)
      | _ => none
  | _ => none

theorem soleInput?_eq_some {w : Workflow} {step : Step} {name s : String}
    (sole : soleInput? w = some (step, name, s)) :
    w.steps = [step] ∧ step.inputs = [(name, .text s)] := by
  rw [soleInput?] at sole
  split at sole
  · rename_i first alone
    split at sole
    · rename_i given
      cases sole
      exact ⟨alone, given⟩
    · cases sole
  · cases sole

theorem require_squared : ∃ u, (Body.ofRequest squared).require Upload.reader = .ok u ∧
    u.definition.steps ≠ [] ∧ u.definition.steps.length ≤ Refusal.maxSteps ∧
    Admission.ReferenceFaults u.definition := by
  have holds : (((Body.ofRequest squared).require Upload.reader).toOption.any fun u =>
      (soleInput? u.definition).any fun sole => sole.1.dependencies.isEmpty &&
        decide (Admission.checkStep sole.1 = .ok ()) && sole.2.2 == "$input.²") = true := by
    decide +kernel
  obtain ⟨u, read, holds⟩ := exists_of_toOption_any holds
  obtain ⟨⟨step, name, s⟩, sole, holds⟩ := (Option.any_eq_true _ _).mp holds
  simp only [Bool.and_eq_true, List.isEmpty_iff, decide_eq_true_eq, beq_iff_eq] at holds
  obtain ⟨⟨free, passed⟩, rfl⟩ := holds
  obtain ⟨alone, given⟩ := soleInput?_eq_some sole
  refine ⟨u, read, ?_, ?_, referenceFaults_of_single alone free passed given misnumbered_square⟩
  · rw [alone]
    exact List.cons_ne_nil _ _
  · rw [alone]
    exact Nat.le_of_ble_eq_true rfl

/-- The service is at fault for an upload that its checks neither admit nor refuse. -/
theorem squared_broken : ∃ u f, (Body.ofRequest squared).require Upload.reader = .ok u ∧
    Admission.check u.definition = .error (.fault f) ∧ (fresh.respond squared).value.1.status = 500 := by
  obtain ⟨u, read, some, few, wrong⟩ := require_squared
  obtain ⟨f, failed⟩ := Admission.exists_check_eq_fault_iff.mpr ⟨some, few, Or.inr wrong⟩
  obtain ⟨document, answered⟩ := respond_upload (s := fresh) (by decide +kernel) read
  rw [failed] at answered
  exact ⟨u, f, read, failed, by rw [answered]; rfl⟩

theorem verdict_of_upload_squared : Routing.ofRequest squared = .found .upload ∧
    ∃ u response after, (Body.ofRequest squared).require Upload.reader = .ok u ∧
      (fresh.respond squared).value = (response, after) ∧ response.status = 500 ∧
      Admission.ReferenceFaults u.definition := by
  have routed : Routing.ofRequest squared = .found .upload := by decide +kernel
  obtain ⟨u, read, some, few, wrong⟩ := require_squared
  obtain ⟨response, after, answered, -, -, broken, -⟩ :=
    (verdict_of_upload u.definition fresh squared u).2 routed read
  exact ⟨routed, u, response, after, read, answered, broken.mpr ⟨some, few, wrong⟩, wrong⟩

end Service

end Stepwise
