import Stepwise.Execution.Attempt

/-!
What can become of an attempt at a step: outputs, the message of a failure, or entries that cannot be
recorded because one of them has no name.
-/

namespace Stepwise

/-! ### Names of entries -/

/-- The value can be read as a name. -/
def Value.isName : Value → Bool
  | text _ => true
  | markup _ => true
  | bytes data => (Text.Utf8.text? data).isSome
  | _ => false

/-- An entry whose key is no name. -/
def Entries.Nameless (entries : Entries) : Prop := ∃ e ∈ entries, e.1.isName = false

namespace Schema

theorem text_of_isName {v : Value} (named : v.isName = true) : ∃ s, text v = .ok s := by
  cases v with
  | text s => exact ⟨s, rfl⟩
  | markup s => exact ⟨s, rfl⟩
  | bytes data =>
      obtain ⟨s, read⟩ := Option.isSome_iff_exists.mp named
      exact ⟨s, by rw [text, read]⟩
  | _ => cases named

theorem isName_of_text {v : Value} {s : String} (read : text v = .ok s) : v.isName = true := by
  cases v with
  | text => rfl
  | markup => rfl
  | bytes data =>
      cases decoded : Text.Utf8.text? data with
      | some t => rw [Value.isName, decoded, Option.isSome_some]
      | none =>
          rw [text, decoded] at read
          cases read
  | _ => cases read

theorem exists_readMembers_iff (entries : Entries) :
    (∃ fields, readMembers entries = .ok fields) ↔ ¬Entries.Nameless entries := by
  induction entries with
  | nil => exact iff_of_true ⟨[], rfl⟩ (fun ⟨_, absent, _⟩ => List.not_mem_nil absent)
  | cons e rest ih =>
      obtain ⟨key, v⟩ := e
      constructor
      · rintro ⟨fields, read⟩ ⟨e, member, nameless⟩
        obtain ⟨g, others, atKey, atRest, -⟩ := seq_eq_ok.mp read
        obtain ⟨name, named, -⟩ := map_eq_ok.mp atKey
        rcases List.mem_cons.mp member with rfl | later
        · have isName := isName_of_text (under_eq_ok.mp (under_eq_ok.mp named))
          rw [nameless] at isName
          cases isName
        · exact ih.mp ⟨others, atRest⟩ ⟨e, later, nameless⟩
      · intro named
        have here : key.isName = true := by
          cases nameless : key.isName with
          | true => rfl
          | false => exact absurd ⟨(key, v), List.mem_cons_self, nameless⟩ named
        obtain ⟨name, read⟩ := text_of_isName here
        obtain ⟨fields, others⟩ := ih.mpr fun ⟨e, later, nameless⟩ =>
          named ⟨e, List.mem_cons_of_mem _ later, nameless⟩
        refine ⟨(name, v) :: fields, ?_⟩
        rw [readMembers, read, others]
        rfl

end Schema

theorem not_nameless_entries (fields : Fields) : ¬Entries.Nameless (Fields.entries fields) := by
  rintro ⟨e, member, nameless⟩
  obtain ⟨field, -, rfl⟩ := List.mem_map.mp member
  cases nameless

namespace StepResult

theorem ofEntries_of_named (step : String) {entries : Entries} (named : ¬entries.Nameless) :
    ∃ r, ofEntries step entries = .ok r := by
  obtain ⟨fields, read⟩ := (Schema.exists_readMembers_iff entries).mpr named
  rw [ofEntries, read]
  exact ⟨_, rfl⟩

theorem ofEntries_of_nameless (step : String) {entries : Entries} (nameless : entries.Nameless) :
    ∃ f, ofEntries step entries = .error f := by
  cases read : Schema.readMembers entries with
  | ok fields =>
      exact absurd nameless ((Schema.exists_readMembers_iff entries).mp ⟨fields, read⟩)
  | bad issues =>
      rw [ofEntries, read]
      exact ⟨_, rfl⟩

theorem ofEntries_step {step : String} {entries : Entries} {r : StepResult}
    (recorded : ofEntries step entries = .ok r) : r.step = step := by
  rw [ofEntries] at recorded
  cases read : (Schema.readMembers entries).under (.member "outputs") with
  | ok fields =>
      rw [read] at recorded
      cases recorded
      rfl
  | bad issues =>
      rw [read] at recorded
      cases recorded

end StepResult

/-! ### What may ask and may fail -/

namespace Asked

variable {α β : Type}

theorem value_bind (x : Asked α) (f : α → Asked β) :
    (x >>= f).run.value = match x.run.value with
      | .ok a => (f a).run.value
      | .error e => .error e := by
  show (ExceptT.bindCont f x.run.value).value = _
  cases x.run.value <;> rfl

theorem value_map (f : α → β) (x : Asked α) : (f <$> x).run.value = x.run.value.map f := by
  simp only [Functor.map, ExceptT.map, ExceptT.run, ExceptT.mk, bind]
  cases (x : Traced (Except StepError α)).value <;> rfl

theorem value_bind_eq_ok {x : Asked α} {f : α → Asked β} {b : β} :
    (x >>= f).run.value = .ok b ↔ ∃ a, x.run.value = .ok a ∧ (f a).run.value = .ok b := by
  rw [value_bind]
  cases x.run.value <;> simp

end Asked

/-! ### Attempts -/

section Attempt

variable {w : World} {ctx : Context} {s : Step} {execute : Fields → Asked Entries}

/-- An attempt whose inputs are known is what the step does with them. -/
theorem attempt_of_resolved {inputs : Fields} (registered : w.executes s.kind = true)
    (resolved : Fields.resolve ctx s.inputs = .ok inputs) :
    attempt w ctx s execute = settle s.id (execute inputs) := by
  simp only [attempt, registered, resolved]
  rfl

theorem attempt_of_unresolved {f : Fault} (registered : w.executes s.kind = true)
    (failed : Fields.resolve ctx s.inputs = .error f) :
    (attempt w ctx s execute).value = .ok ⟨s.id, .failed (StepError.fault f).reported⟩ := by
  simp only [attempt, registered, failed]
  rfl

theorem attempt_of_unregistered (unregistered : w.executes s.kind = false) :
    (attempt w ctx s execute).value =
      .ok ⟨s.id, .failed (StepError.noExecutor s.kind).reported⟩ := by
  simp only [attempt, unregistered]
  rfl

theorem settle_of_ok {step : String} {x : Asked Entries} {entries : Entries}
    (done : x.run.value = .ok entries) :
    (settle step x).value = StepResult.ofEntries step entries := by
  simp only [settle, done]

theorem settle_of_error {step : String} {x : Asked Entries} {e : StepError}
    (failed : x.run.value = .error e) :
    (settle step x).value = .ok ⟨step, .failed e.reported⟩ := by
  simp only [settle, failed]

theorem settle_step {step : String} {x : Asked Entries} {r : StepResult}
    (settled : (settle step x).value = .ok r) : r.step = step := by
  cases done : x.run.value with
  | ok entries =>
      rw [settle_of_ok done] at settled
      exact StepResult.ofEntries_step settled
  | error e =>
      rw [settle_of_error done] at settled
      cases settled
      rfl

theorem settle_eq_error_iff {step : String} {x : Asked Entries} :
    (∃ f, (settle step x).value = .error f) ↔
      ∃ entries, x.run.value = .ok entries ∧ entries.Nameless := by
  constructor
  · rintro ⟨f, failed⟩
    cases done : x.run.value with
    | ok entries =>
        rw [settle_of_ok done] at failed
        refine ⟨entries, rfl, Classical.byContradiction fun named => ?_⟩
        obtain ⟨r, recorded⟩ := StepResult.ofEntries_of_named step named
        rw [recorded] at failed
        cases failed
    | error e =>
        rw [settle_of_error done] at failed
        cases failed
  · rintro ⟨entries, done, nameless⟩
    rw [settle_of_ok done]
    exact StepResult.ofEntries_of_nameless step nameless

end Attempt

/-! ### Plans -/

namespace Plan

variable {w : World} {ctx : Context} {s : Step} {inputs : Fields}

theorem value_execute_script (config : ScriptConfig) :
    ((Plan.script config).execute w ctx s inputs).run.value = ScriptStep.run ctx config inputs := by
  rw [execute]
  cases ScriptStep.run ctx config inputs <;> rfl

theorem named_of_map {x : Asked Fields} {entries : Entries}
    (done : (Fields.entries <$> x).run.value = .ok entries) : ¬entries.Nameless := by
  rw [Asked.value_map] at done
  cases fields : x.run.value with
  | ok found =>
      rw [fields] at done
      cases done
      exact not_nameless_entries found
  | error e =>
      rw [fields] at done
      cases done

/-- Only scripts put out entries without names. -/
theorem exists_script_of_nameless {plan : Plan} {entries : Entries}
    (done : (plan.execute w ctx s inputs).run.value = .ok entries) (nameless : entries.Nameless) :
    ∃ config, plan = .script config := by
  cases plan with
  | unknown kind =>
      rw [execute] at done
      cases done
  | misfit kind report =>
      rw [execute] at done
      cases done
  | remote config =>
      rw [execute] at done
      exact absurd nameless (named_of_map done)
  | completion config =>
      rw [execute] at done
      exact absurd nameless (named_of_map done)
  | script config => exact ⟨config, rfl⟩
  | group subs =>
      rw [execute] at done
      by_cases empty : subs.isEmpty = true
      · rw [if_pos empty] at done
        obtain ⟨_, thrown, -⟩ := Asked.value_bind_eq_ok.mp done
        cases thrown
      · rw [if_neg empty] at done
        by_cases missing : (!w.runsGroups) = true
        · rw [if_pos missing] at done
          obtain ⟨_, thrown, -⟩ := Asked.value_bind_eq_ok.mp done
          cases thrown
        · rw [if_neg missing] at done
          obtain ⟨attempts, -, concluded⟩ := Asked.value_bind_eq_ok.mp done
          exact absurd nameless (named_of_map concluded)

end Plan

/-- The attempt at the step puts out a mapping with a key that is no name. -/
def Step.PutsNameless (w : World) (ctx : Context) (s : Step) : Prop :=
  w.executes s.kind = true ∧ ∃ config inputs entries, Plan.ofStep s = .script config ∧
    Fields.resolve ctx s.inputs = .ok inputs ∧ ScriptStep.run ctx config inputs = .ok entries ∧
    entries.Nameless

namespace Step

variable {w : World} {ctx : Context} {s : Step}

/-- An attempt cannot be recorded exactly where a script has put out a key that is no name. -/
theorem attempt_eq_error_iff :
    (∃ f, (s.attempt w ctx).value = .error f) ↔ s.PutsNameless w ctx := by
  rw [attempt]
  constructor
  · rintro ⟨f, failed⟩
    by_cases registered : w.executes s.kind = true
    · cases resolved : Fields.resolve ctx s.inputs with
      | error g =>
          rw [attempt_of_unresolved registered resolved] at failed
          cases failed
      | ok inputs =>
          rw [attempt_of_resolved registered resolved] at failed
          obtain ⟨entries, done, nameless⟩ := settle_eq_error_iff.mp ⟨f, failed⟩
          obtain ⟨config, plan⟩ := Plan.exists_script_of_nameless done nameless
          rw [plan, Plan.value_execute_script] at done
          exact ⟨registered, config, inputs, entries, plan, resolved, done, nameless⟩
    · rw [attempt_of_unregistered (Bool.eq_false_iff.mpr registered)] at failed
      cases failed
  · rintro ⟨registered, config, inputs, entries, plan, resolved, done, nameless⟩
    rw [attempt_of_resolved registered resolved, plan]
    exact settle_eq_error_iff.mpr ⟨entries, by rw [Plan.value_execute_script, done], nameless⟩

/-- What is recorded of an attempt bears the id of its step. -/
theorem attempt_step {r : StepResult} (recorded : (s.attempt w ctx).value = .ok r) :
    r.step = s.id := settle_step recorded

end Step

end Stepwise
