import Stepwise.Proofs.Execution.Attempt

/-!
Why steps fail. What a step does with its inputs can fail in many ways, but never says that nothing
executes the step or that its configuration does not fit: only the plan of the step says so.
-/

namespace Stepwise

/-- A failure that the definition accounts for: nothing executes the kind of the step, or its
configuration does not fit. -/
inductive StepError.OfDefinition : StepError → Prop where
  | noExecutor (kind : String) : OfDefinition (.noExecutor kind)
  | badConfig (kind report : String) : OfDefinition (.badConfig kind report)

namespace Asked

variable {α β : Type} {e : StepError}

/-- No failure is one that the definition accounts for. -/
def Operational (x : Asked α) : Prop := ∀ e, x.run.value = .error e → ¬e.OfDefinition

theorem operational_pure (a : α) : Operational (pure a : Asked α) := fun _ failed => nomatch failed

theorem operational_throw (other : ¬e.OfDefinition) : Operational (throw e : Asked α) := by
  intro _ failed
  cases failed
  exact other

theorem operational_checked (x : Checked α) : Operational (Asked.checked x) := by
  cases x with
  | ok a => exact operational_pure a
  | error f => exact operational_throw (by rintro ⟨⟩)

theorem operational_lift (x : Traced α) : Operational (ExceptT.lift x) := fun _ failed => nomatch failed

theorem Operational.bind {x : Asked α} {f : α → Asked β} (first : x.Operational)
    (next : ∀ a, (f a).Operational) : (x >>= f).Operational := by
  intro e failed
  rw [value_bind] at failed
  cases done : x.run.value with
  | ok a =>
      rw [done] at failed
      exact next a e failed
  | error _ =>
      rw [done] at failed
      cases failed
      exact first e done

theorem Operational.map {x : Asked α} (made : x.Operational) (f : α → β) : (f <$> x).Operational := by
  intro e failed
  rw [value_map] at failed
  cases done : x.run.value with
  | ok a =>
      rw [done] at failed
      cases failed
  | error _ =>
      rw [done] at failed
      cases failed
      exact made e done

/-- Behind a test that may fail for another reason what follows decides. -/
theorem Operational.guard {c : Prop} [Decidable c] {rest : Unit → Asked α} (other : ¬e.OfDefinition)
    (next : ∀ u, (rest u).Operational) : (if c then throw e >>= rest else rest ()).Operational := by
  split
  · exact (operational_throw other).bind next
  · exact next ()

end Asked

/-! ### Remote calls -/

namespace Remote

open Asked

variable (w : World) (token : Value) (inputs params : Fields)

theorem operational_get (url : String) : (get w url token params).Operational := by
  refine (operational_checked _).bind fun _ => (operational_lift _).bind fun reply => ?_
  split
  · exact operational_throw (by rintro ⟨⟩)
  · split
    · exact operational_throw (by rintro ⟨⟩)
    · split
      · exact operational_pure _
      · exact operational_throw (by rintro ⟨⟩)

theorem operational_videoId (need : RemoteNeed) : (videoId inputs params need).Operational := by
  refine (operational_checked _).bind fun _ => (operational_checked _).bind fun given => ?_
  split
  · exact operational_pure _
  · exact operational_throw (by rintro ⟨⟩)

theorem operational_channel : (channel w token inputs params).Operational := by
  refine (operational_checked _).bind fun _ => (operational_get w token _ _).bind fun _ =>
    (operational_checked _).bind fun _ => (operational_checked _).bind fun _ => ?_
  exact Operational.guard (by rintro ⟨⟩) fun _ => operational_checked _

theorem operational_videos : (videos w token inputs params).Operational := by
  refine (operational_checked _).bind fun _ => ?_
  split
  · exact operational_pure _
  · exact (operational_checked _).bind fun _ => (operational_get w token _ _).bind fun _ =>
      operational_checked _

theorem operational_search : (search w token inputs params).Operational :=
  (operational_checked _).bind fun _ => (operational_get w token _ _).bind fun _ =>
    operational_checked _

theorem operational_analytics : (analytics w token inputs params).Operational := by
  refine (operational_checked _).bind fun _ => Operational.guard (by rintro ⟨⟩) fun _ => ?_
  exact (operational_checked _).bind fun _ => (operational_checked _).bind fun _ =>
    (operational_checked _).bind fun _ => (operational_get w token _ _).bind fun _ =>
      operational_checked _

theorem operational_playlistItems : (playlistItems w token inputs params).Operational := by
  refine (operational_checked _).bind fun _ => (operational_checked _).bind fun _ => ?_
  exact Operational.guard (by rintro ⟨⟩) fun _ =>
    (operational_get w token _ _).bind fun _ => operational_checked _

theorem operational_comments : (comments w token inputs params).Operational :=
  (operational_videoId inputs params _).bind fun _ => (operational_get w token _ _).bind fun _ =>
    operational_checked _

theorem operational_captions : (captions w token inputs params).Operational :=
  (operational_videoId inputs params _).bind fun _ => (operational_get w token _ _).bind fun _ =>
    operational_checked _

theorem operational_call (config : RemoteConfig) : (call w config inputs).Operational := by
  refine (operational_checked _).bind fun _ => Operational.guard (by rintro ⟨⟩) fun _ => ?_
  split
  · rename_i name endpoint found
    have listed := List.mem_of_find?_eq_some found
    simp only [endpoints, List.mem_cons, List.not_mem_nil, or_false, Prod.mk.injEq] at listed
    rcases listed with ⟨-, rfl⟩ | ⟨-, rfl⟩ | ⟨-, rfl⟩ | ⟨-, rfl⟩ | ⟨-, rfl⟩ | ⟨-, rfl⟩ | ⟨-, rfl⟩
    · exact operational_channel w _ inputs _
    · exact operational_videos w _ inputs _
    · exact operational_search w _ inputs _
    · exact operational_analytics w _ inputs _
    · exact operational_playlistItems w _ inputs _
    · exact operational_comments w _ inputs _
    · exact operational_captions w _ inputs _
  · exact operational_throw (by rintro ⟨⟩)

end Remote

/-! ### Completions, scripts and groups -/

open Asked

variable {w : World} {ctx : Context}

theorem Completion.operational_request (outputs : List String) (config : CompletionConfig)
    (inputs : Fields) : (Completion.request w ctx outputs config inputs).Operational := by
  refine Operational.guard (by rintro ⟨⟩) fun _ => (operational_checked _).bind fun _ => ?_
  split
  · exact operational_throw (by rintro ⟨⟩)
  · refine (operational_lift _).bind fun reply => ?_
    split
    · exact operational_throw (by rintro ⟨⟩)
    · split
      · exact operational_pure _
      · rename_i e failed
        refine operational_throw fun wrong => ?_
        rw [Completion.output] at failed
        split at failed
        · cases failed
          cases wrong
        · cases failed

theorem ScriptStep.not_ofDefinition {config : ScriptConfig} {inputs : Fields} {e : StepError}
    (failed : ScriptStep.run ctx config inputs = .error e) : ¬e.OfDefinition := by
  rw [run] at failed
  split at failed
  · cases failed
    rintro ⟨⟩
  · dsimp only at failed
    split at failed
    · cases failed
      rintro ⟨⟩
    · split at failed
      · cases failed
      · cases failed
        rintro ⟨⟩
      · cases failed
        rintro ⟨⟩

theorem Group.operational_conclude (group : String) (attempts : List (Checked StepResult)) :
    (Group.conclude group attempts).Operational :=
  (operational_checked _).bind fun _ =>
    Operational.guard (by rintro ⟨⟩) fun _ => operational_lift _

/-- Only a plan that says so fails by the definition. -/
theorem Plan.operational_execute {plan : Plan} (known : ∀ kind, plan ≠ .unknown kind)
    (fits : ∀ kind report, plan ≠ .misfit kind report) (step : Step) (inputs : Fields) :
    (plan.execute w ctx step inputs).Operational := by
  cases plan with
  | unknown kind => exact absurd rfl (known kind)
  | misfit kind report => exact absurd rfl (fits kind report)
  | remote config =>
      rw [execute]
      exact (Remote.operational_call w inputs config).map _
  | completion config =>
      rw [execute]
      exact (Completion.operational_request step.outputs config inputs).map _
  | script config =>
      intro e failed
      rw [value_execute_script] at failed
      exact ScriptStep.not_ofDefinition failed
  | group subs =>
      rw [execute]
      refine Operational.guard (by rintro ⟨⟩) fun _ =>
        Operational.guard (by rintro ⟨⟩) fun _ => (operational_lift _).bind fun _ => ?_
      exact (Group.operational_conclude _ _).map _

/-! ### Attempts -/

/-- What an attempt does before it is recorded. -/
def pursue (w : World) (ctx : Context) (step : Step) (execute : Fields → Asked Entries) :
    Asked Entries := do
  if !w.executes step.kind then throw (.noExecutor step.kind)
  let inputs ← Asked.checked (Fields.resolve ctx step.inputs)
  execute inputs

/-- What an attempt at a step does before it is recorded. -/
def Step.pursue (w : World) (ctx : Context) (step : Step) : Asked Entries :=
  Stepwise.pursue w ctx step fun inputs => (Plan.ofStep step).execute w ctx step inputs

theorem operational_pursue {step : Step} {execute : Fields → Asked Entries}
    (registered : w.executes step.kind = true) (executed : ∀ inputs, (execute inputs).Operational) :
    (pursue w ctx step execute).Operational := by
  rw [pursue, registered]
  exact (operational_checked _).bind executed

/-- A failure that is recorded has a cause. -/
theorem exists_cause_of_settle {step message : String} {x : Asked Entries} {r : StepResult}
    (settled : (settle step x).value = .ok r) (failed : r.failure? = some message) :
    r.step = step ∧ ∃ e, x.run.value = .error e ∧ message = e.reported := by
  cases done : x.run.value with
  | ok entries =>
      rw [settle_of_ok done, StepResult.ofEntries] at settled
      cases loaded : ((Schema.readMembers entries).under (.member "outputs")).checked "StepResult" with
      | error f =>
          rw [loaded] at settled
          cases settled
      | ok fields =>
          rw [loaded] at settled
          cases settled
          cases failed
  | error e =>
      rw [settle_of_error done] at settled
      cases settled
      cases failed
      exact ⟨rfl, e, rfl, rfl⟩

end Stepwise
