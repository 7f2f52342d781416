import Stepwise.Proofs.Admission.Sound
import Stepwise.Proofs.Execution.Cause
import Stepwise.Proofs.Execution.Group

/-!
The names that scripts keep for themselves. An admitted script step declares no input under such a name.
What it is given may have one nevertheless: an input that a group around it declares.
-/

namespace Stepwise

/-! ### Scripts -/

/-- The attempt at a script step fails because of the names of what it is given. -/
def Step.Trips (w : World) (ctx : Context) (s : Step) (config : ScriptConfig) (names : List String) :
    Prop :=
  (Stepwise.pursue w ctx s fun own => (Plan.script config).execute w ctx s own).run.value =
    .error (.reservedInputs names)

namespace Step

variable {w : World} {ctx : Context} {s : Step} {config : ScriptConfig} {names : List String}

theorem run_eq_reservedInputs_iff {inputs : Fields} :
    ScriptStep.run ctx config inputs = .error (.reservedInputs names) ↔
      Text.allBlank config.script = false ∧ names = ScriptStep.reserved inputs ∧ names ≠ [] := by
  rw [ScriptStep.run]
  split
  · rename_i blank
    refine iff_of_false (by rintro ⟨⟩) ?_
    rintro ⟨written, -⟩
    rw [blank] at written
    cases written
  · rename_i written
    dsimp only
    by_cases none : ScriptStep.reserved inputs = []
    · rw [none]
      refine iff_of_false ?_ (by rintro ⟨-, rfl, some⟩; exact some rfl)
      intro failed
      split at failed
      · rename_i some
        cases some
      · split at failed <;> cases failed
    · have shadowed : (!(ScriptStep.reserved inputs).isEmpty) = true := by
        rw [Bool.not_eq_true', Bool.eq_false_iff, ne_eq, List.isEmpty_iff]
        exact none
      rw [if_pos shadowed]
      constructor
      · intro failed
        cases failed
        exact ⟨Bool.eq_false_iff.mpr written, rfl, none⟩
      · rintro ⟨-, rfl, -⟩
        rfl

theorem reserved_resolve {fields inputs : Fields} (resolved : Fields.resolve ctx fields = .ok inputs) :
    ScriptStep.reserved inputs = StepError.reservedNames.filter (Fields.has fields) := by
  refine List.filter_congr fun name _ => ?_
  exact Fields.has_resolve resolved

theorem trips_iff : s.Trips w ctx config names ↔
    (∃ inputs, s.Receives w ctx inputs) ∧ Text.allBlank config.script = false ∧
      names = StepError.reservedNames.filter (Fields.has s.inputs) ∧ names ≠ [] := by
  by_cases registered : w.executes s.kind = true
  · cases resolved : Fields.resolve ctx s.inputs with
    | ok inputs =>
        have pursued : (Stepwise.pursue w ctx s fun own =>
            (Plan.script config).execute w ctx s own).run.value = ScriptStep.run ctx config inputs := by
          simp only [Stepwise.pursue, registered, resolved]
          exact Plan.value_execute_script (s := s) (w := w) config
        rw [Trips, pursued, run_eq_reservedInputs_iff, reserved_resolve resolved]
        exact (and_iff_right ⟨inputs, receives_of_resolved registered resolved⟩).symm
    | error f =>
        refine iff_of_false ?_ ?_
        · intro trips
          simp only [Trips, Stepwise.pursue, registered, resolved] at trips
          cases trips
        · rintro ⟨⟨inputs, receives⟩, -⟩
          rw [(resolved_of_receives receives).2] at resolved
          cases resolved
  · rw [Bool.not_eq_true] at registered
    refine iff_of_false ?_ ?_
    · intro trips
      simp only [Trips, Stepwise.pursue, registered] at trips
      cases trips
    · rintro ⟨⟨inputs, receives⟩, -⟩
      rw [(resolved_of_receives receives).1] at registered
      cases registered

/-- A script step that declares no such name is never stopped by what it declares. -/
theorem not_trips_of_sound (sound : Admission.Sound s (.script config)) : ¬s.Trips w ctx config names := by
  intro trips
  obtain ⟨-, -, rfl, some⟩ := trips_iff.mp trips
  refine some (List.filter_eq_nil_iff.mpr fun name reserved => ?_)
  rw [sound.free config rfl name reserved]
  exact Bool.false_ne_true

end Step

/-! ### Sub-steps -/

namespace Group

variable {w : World} {ctx : Context} {held inner : Fields} {plan : Plan} {above : List Step}
  {last : Step × Plan} {s t : Step} {config : ScriptConfig} {names : List String}

/-- How a sub-step comes to be attempted below a plan that holds inputs: through the groups above it,
each of which is given its inputs, of which the innermost holds some in turn. -/
inductive Tries (w : World) (ctx : Context) :
    Fields → Plan → List Step → Fields → Step × Plan → Prop where
  | direct {held : Fields} {subs : List (Step × Plan)} {last : Step × Plan} (member : last ∈ subs) :
      Tries w ctx held (.group subs) [] held last
  | deeper {held between inner : Fields} {subs : List (Step × Plan)} {sub : Step} {plan : Plan}
      {above : List Step} {last : Step × Plan} (member : (sub, plan) ∈ subs)
      (given : (overlaid held sub).Receives w ctx between)
      (further : Tries w ctx between plan above inner last) :
      Tries w ctx held (.group subs) (sub :: above) inner last

theorem Tries.nests (tries : Tries w ctx held plan above inner last) : plan.Nests last.1 last.2 := by
  induction tries with
  | direct member => exact .direct member
  | deeper member given further ih => exact .deeper member ih

theorem has_of_receives {received : Fields} (given : (overlaid held s).Receives w ctx received)
    (name : String) :
    Fields.has received name = (Fields.has s.inputs name || Fields.has held name) := by
  have resolved : Fields.resolve ctx (Fields.merge held s.inputs) = .ok received :=
    (Step.resolved_of_receives given).2
  rw [Fields.has_resolve resolved, Fields.has_merge]

theorem Tries.has_inner (tries : Tries w ctx held plan above inner last) (name : String) :
    Fields.has inner name = (Fields.has held name || above.any fun u => Fields.has u.inputs name) := by
  induction tries with
  | direct member => rw [List.any_nil, Bool.or_false]
  | deeper member given further ih =>
      rw [ih, has_of_receives given, List.any_cons, Bool.or_assoc, Bool.or_left_comm]

theorem attemptAt_of_trips (trips : (overlaid inner t).Trips w ctx config names) :
    attemptAt w ctx inner (t, .script config) =
      .ok ⟨t.id, .failed (StepError.reservedInputs names).reported⟩ :=
  settle_of_error trips

/-- In a run of an admitted workflow no script step is stopped by a reserved name, but a script below a
group may be. It is, where it is given its inputs and has something written, exactly if the group or a
group on the way down to it declares an input under such a name, and it is stopped for the names that are
so declared. So no script is stopped where no group declares a reserved name. -/
theorem reserved_of_admitted (definition : Workflow) (admitted : Admission.check definition = .ok ())
    (w : World) (ctx : Context) : ∀ s ∈ definition.steps,
      (∀ config names, Plan.ofStep s = .script config → ¬s.Trips w ctx config names) ∧
      ∀ held, s.Receives w ctx held → ∀ above inner t config,
        Tries w ctx held (Plan.ofStep s) above inner (t, .script config) →
          (∀ names, (overlaid inner t).Trips w ctx config names ↔
            (∃ received, (overlaid inner t).Receives w ctx received) ∧
              Text.allBlank config.script = false ∧
              names = StepError.reservedNames.filter (fun name =>
                (s :: above).any fun u => Fields.has u.inputs name) ∧ names ≠ []) ∧
          ∀ names, (overlaid inner t).Trips w ctx config names →
            attemptAt w ctx inner (t, .script config) =
              .ok ⟨t.id, .failed (StepError.reservedInputs names).reported⟩ := by
  obtain ⟨-, -, -, thorough, -⟩ := Admission.check_eq_ok_iff_thorough.mp admitted
  intro s member
  obtain ⟨sound, nested⟩ := thorough s member
  refine ⟨?_, ?_⟩
  · intro config names planned
    rw [planned] at sound
    exact Step.not_trips_of_sound sound
  · intro held receives above inner t config tries
    refine ⟨fun names => ?_, fun names => attemptAt_of_trips⟩
    have free := (nested t _ tries.nests).free config rfl
    have resolved := (Step.resolved_of_receives receives).2
    have given : StepError.reservedNames.filter (Fields.has (overlaid inner t).inputs) =
        StepError.reservedNames.filter fun name =>
          (s :: above).any fun u => Fields.has u.inputs name := by
      refine List.filter_congr fun name reserved => ?_
      show Fields.has (Fields.merge inner t.inputs) name = _
      rw [Fields.has_merge, free name reserved, Bool.false_or, tries.has_inner,
        Fields.has_resolve resolved, List.any_cons]
    rw [Step.trips_iff, given]

/-! ### A group that declares a name of the script below it -/

def closed : Step :=
  { id := "s"
    kind := StepKind.script.name
    config := [("script", .text "\x7b'r': 1\x7d")] }

/-- A group that declares an input under a name that scripts keep for themselves. -/
def shadowing : Step := around [("steps", .int 1)] closed

theorem ofStep_closed : Plan.ofStep closed = .script { script := "\x7b'r': 1\x7d" } := by
  rw [Plan.ofStep]
  rfl

theorem ofStep_shadowing :
    Plan.ofStep shadowing = .group [(closed, .script { script := "\x7b'r': 1\x7d" })] := by
  rw [← ofStep_closed, Plan.ofStep]
  rfl

def shadowingGraph : DependencyGraph := ⟨["around"], [("around", [])], [("around", 0)]⟩

theorem ofWorkflow_shadowing :
    DependencyGraph.ofWorkflow (Engine.alone shadowing) = .ok shadowingGraph := by
  have walked : Graph.walk ["around"] (DependencyGraph.dependenciesIn [("around", [])]) =
      .ok ["around"] := by
    simp [Graph.walk, Graph.walkFrom, DependencyGraph.dependenciesIn]
  exact DependencyGraph.ofWorkflow_eq_ok.mpr ⟨rfl, _, walked, rfl⟩

theorem ancestors_shadowing : shadowingGraph.ancestors = .ok [("around", [])] := by
  rw [DependencyGraph.ancestors, DependencyGraph.byLevel_of_rising rfl (by decide) (by decide)]
  rfl

theorem check_shadowing : Admission.check (Engine.alone shadowing) = .ok () := by
  have passed : ∀ s ∈ (Engine.alone shadowing).steps, Admission.checkStep s = .ok () := by
    intro s member
    rw [List.mem_singleton.mp member, Admission.checkStep, ofStep_shadowing]
    decide +kernel
  exact Admission.check_eq_ok_iff.mpr ⟨List.cons_ne_nil _ _, Nat.le_of_ble_eq_true rfl,
    Admission.checkSteps_eq_ok_iff.mpr ⟨by decide, fun _ _ => List.not_mem_nil, passed⟩, _,
    ofWorkflow_shadowing, _, ancestors_shadowing, by decide +kernel⟩

theorem attempt_shadowing (ctx : Context) : (shadowing.attempt Engine.silent ctx).value =
    .ok ⟨"around", .failed "Parallel step failures: s: Transform inputs use reserved names: steps"⟩ := by
  rw [Step.attempt, ofStep_shadowing]
  rfl

/-- The workflow is admitted, and its run fails since the script below its group is stopped for the
name. -/
theorem shadowing_stops : Admission.check (Engine.alone shadowing) = .ok () ∧
    ∃ r history, (Engine.run Engine.silent (Engine.only (Engine.alone shadowing)) Engine.single
        Engine.ordered).value = (.ok r, history) ∧ r.status = .failed ∧
      r.errors.map (·.message) =
        ["Parallel step failures: s: Transform inputs use reserved names: steps"] := by
  refine ⟨check_shadowing, ?_⟩
  have prepared : Engine.prepare Engine.silent (Engine.only (Engine.alone shadowing))
      Engine.ordered.workflow = .ok (Engine.alone shadowing, shadowingGraph) :=
    Engine.prepare_eq_ok.mpr ⟨rfl, ofWorkflow_shadowing, by decide⟩
  have levels : shadowingGraph.stepsByLevel (Engine.alone shadowing) = [[shadowing]] := rfl
  have done : StepResult.all ([shadowing].map
      (Engine.attempts Engine.silent { inputs := [], run := "run" })) = .ok [⟨"around",
        .failed "Parallel step failures: s: Transform inputs use reserved names: steps"⟩] := by
    rw [List.map_singleton, Engine.attempts, attempt_shadowing]
    rfl
  have ran : Levels.run (Levels.noting (Engine.attempts Engine.silent))
      { inputs := [], run := Engine.ordered.id } [[shadowing]] = ⟨.ok (.failed "around"
        "Parallel step failures: s: Transform inputs use reserved names: steps"),
        [⟨{ inputs := [], run := "run" }, shadowing⟩]⟩ :=
    Levels.run_noting_cons_of_stops (.failure done rfl)
  have ended : (Engine.outcome Engine.silent (Engine.only (Engine.alone shadowing))
      Engine.ordered).value = .ok (Engine.failure Engine.ordered.ended "around"
        "Parallel step failures: s: Transform inputs use reserved names: steps") := by
    rw [Engine.outcome_value, Engine.outcomeBy_noting (Engine.attempts Engine.silent) prepared rfl,
      levels, ran]
    rfl
  rw [← Engine.runAmid_nil, Engine.runAmid_of_ok ended]
  exact ⟨_, _, rfl, rfl, rfl⟩

theorem reserved_of_shadowing :
    attemptAt Engine.silent {} [("steps", .int 1)] (closed, .script { script := "\x7b'r': 1\x7d" }) =
      .ok ⟨"s", .failed "Transform inputs use reserved names: steps"⟩ := by
  have receives : shadowing.Receives Engine.silent {} [("steps", .int 1)] :=
    Step.receives_of_resolved (by decide) rfl
  have tries : Tries Engine.silent {} [("steps", .int 1)] (Plan.ofStep shadowing) []
      [("steps", .int 1)] (closed, .script { script := "\x7b'r': 1\x7d" }) := by
    rw [ofStep_shadowing]
    exact .direct List.mem_cons_self
  obtain ⟨-, below⟩ := reserved_of_admitted (Engine.alone shadowing) check_shadowing Engine.silent {}
    shadowing (List.mem_singleton_self _)
  obtain ⟨trips, recorded⟩ := below _ receives [] _ closed _ tries
  exact recorded ["steps"] ((trips ["steps"]).mpr ⟨⟨_, Step.receives_of_resolved (by decide) rfl⟩,
    by decide +kernel, by decide, by decide⟩)

end Group

end Stepwise
