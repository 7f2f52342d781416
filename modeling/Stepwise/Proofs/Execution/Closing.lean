import Stepwise.Proofs.Checked
import Stepwise.Proofs.Execution.Attempt
import Stepwise.Proofs.Execution.Engine
import Stepwise.Proofs.Execution.History

/-!
How runs end. A run ends, completed or failed, and the history keeps it as it ended, unless an attempt
puts out entries without names: then it ends with a fault, and what is kept of it is still running.
-/

namespace Stepwise

/-- A run that has ended: without errors, or with one error and without outputs. -/
structure Run.Closed (r : Run) : Prop where
  ended : ∃ time, r.ended? = some time
  status : r.status = .completed ∧ r.errors = [] ∨
    r.status = .failed ∧ r.results = [] ∧ ∃ e, r.errors = [e]

namespace Engine

open Levels (Attempts noting)

/-- The attempts at steps in a world. -/
def attempts (w : World) : Attempts := fun ctx s => (s.attempt w ctx).value

theorem named_attempts (w : World) : Levels.Named (attempts w) := fun _ _ _ => Step.attempt_step

/-- The attempts that a run makes. -/
def visits (w : World) (source : Source) (order : Order) : List Visit :=
  (outcomeBy (noting (attempts w)) w source order).visits

/-- A run during which and after which other runs act on the history. -/
def runAmid (w : World) (source : Source) (h : History) (order : Order)
    (during after : List History.Act) : Checked Run × History :=
  let h := (h.store (opened order)).replay during
  match (outcome w source order).value with
  | .error f => (.error f, h.replay after)
  | .ok update => (.ok ((opened order).update update), (h.update order.id update).replay after)

theorem runAmid_nil (w : World) (source : Source) (h : History) (order : Order) :
    runAmid w source h order [] [] = (run w source h order).value := by
  simp only [runAmid, run, runBy, outcome, bind]
  cases (outcomeBy (fun ctx s => s.attempt w ctx) w source order).value <;> rfl

section Outcome

variable (w : World) (source : Source) (order : Order)

/-- What becomes of a run does not depend on what its attempts do beside. -/
theorem outcomeBy_value (attempt : Levels.Runner Traced) :
    (outcomeBy attempt w source order).value =
      (outcomeBy (noting fun c s => (attempt c s).value) w source order).value := by
  simp only [outcomeBy]
  cases prepare w source order.workflow with
  | error e => rfl
  | ok prepared =>
      cases inputsOf order.inputs with
      | error f => rfl
      | ok inputs =>
          simp only [levels, bind, pure, Levels.run_value]

theorem outcome_value :
    (outcome w source order).value = (outcomeBy (noting (attempts w)) w source order).value :=
  outcomeBy_value w source order _

theorem closed_failure (step message : String) (stack? : Option String) :
    ((opened order).update (failure order.ended step message stack?)).Closed :=
  ⟨⟨order.ended, rfl⟩, Or.inr ⟨rfl, rfl, _, rfl⟩⟩

theorem closed_closing (ending : Ending) :
    ((opened order).update (closing order.ended ending)).Closed := by
  cases ending with
  | completed results => exact ⟨⟨order.ended, rfl⟩, Or.inl ⟨rfl, rfl⟩⟩
  | failed step message => exact closed_failure order step message none

theorem inputsOf_of_given (given : order.inputs = .null ∨ ∃ entries, order.inputs = .dict entries) :
    ∃ inputs, inputsOf order.inputs = .ok inputs := by
  rcases given with absent | ⟨entries, present⟩
  · rw [absent]
    exact ⟨[], rfl⟩
  · rw [present, inputsOf]
    split
    · exact ⟨entries, rfl⟩
    · exact ⟨[], rfl⟩

variable {w source order}

theorem not_putsNameless_of_completes {v : Visit} (completes : v.Completes (attempts w)) :
    ¬v.step.PutsNameless w v.context := by
  intro nameless
  obtain ⟨f, failed⟩ := Step.attempt_eq_error_iff.mpr nameless
  obtain ⟨r, recorded, -⟩ := completes
  rw [attempts, failed] at recorded
  cases recorded

/-- A run ends, or one of its attempts puts out entries without names and it ends with a fault. -/
theorem outcome_cases
    (given : order.inputs = .null ∨ ∃ entries, order.inputs = .dict entries) :
    (∃ update, (outcome w source order).value = .ok update ∧
        ((opened order).update update).Closed ∧
        ∀ v ∈ visits w source order, ¬v.step.PutsNameless w v.context) ∨
      ∃ f, (outcome w source order).value = .error f ∧
        ∃ v ∈ visits w source order, v.step.PutsNameless w v.context := by
  obtain ⟨inputs, atInputs⟩ := inputsOf_of_given order given
  rw [outcome_value, visits]
  cases prepared : prepare w source order.workflow with
  | error e =>
      simp only [outcomeBy, prepared, pure]
      exact Or.inl ⟨_, rfl, closed_failure order _ _ _, fun _ absent => absurd absent List.not_mem_nil⟩
  | ok pair =>
      obtain ⟨definition, g⟩ := pair
      rw [outcomeBy_noting (attempts w) prepared atInputs]
      rcases Levels.run_noting (attempts w) { inputs, run := order.id }
          (g.stepsByLevel definition) with
        ⟨made, final, passes, ran⟩ | ⟨pre, steps, post, before, ctx, ending, -, passes, stops, ran⟩
      · rw [ran]
        refine Or.inl ⟨_, rfl, closed_closing order _, ?_⟩
        intro v inside
        exact not_putsNameless_of_completes (passes.completes inside)
      · rw [ran]
        cases stops with
        | fault failed =>
            -- Of what an attempt does, only the making of its result can fail.
            obtain ⟨s, here, atStep⟩ := List.mem_map.mp (StepResult.mem_of_all_eq_error failed)
            refine Or.inr ⟨_, rfl, ⟨ctx, s⟩, ?_, Step.attempt_eq_error_iff.mp ⟨_, atStep⟩⟩
            exact List.mem_append_right before (List.mem_map.mpr ⟨s, here, rfl⟩)
        | failure done first =>
            refine Or.inl ⟨_, rfl, closed_closing order _, ?_⟩
            intro v inside nameless
            rcases List.mem_append.mp inside with earlier | last
            · exact not_putsNameless_of_completes (passes.completes earlier) nameless
            · obtain ⟨s, here, rfl⟩ := List.mem_map.mp last
              obtain ⟨f, failed⟩ := Step.attempt_eq_error_iff.mpr nameless
              -- A failure is looked for when all attempts of the level have results.
              have recorded : attempts w ctx s ∈ _ := List.mem_map.mpr ⟨s, here, rfl⟩
              rw [StepResult.eq_map_of_all_eq_ok done] at recorded
              obtain ⟨r, -, same⟩ := List.mem_map.mp recorded
              rw [attempts, failed] at same
              cases same

end Outcome

section Amid

variable {w : World} {source : Source} {h : History} {order : Order}
  {during after : List History.Act}

theorem runAmid_of_ok {update : RunUpdate}
    (ended : (outcome w source order).value = .ok update) :
    runAmid w source h order during after =
      (.ok ((opened order).update update),
        (((h.store (opened order)).replay during).update order.id update).replay after) := by
  simp only [runAmid, ended]

theorem runAmid_of_error {f : Fault} (failed : (outcome w source order).value = .error f) :
    runAmid w source h order during after =
      (.error f, ((h.store (opened order)).replay during).replay after) := by
  simp only [runAmid, failed]

theorem holds_replay_store (spares : ∀ a ∈ during, a.Spares order.id) :
    ((h.store (opened order)).replay during).Holds order.id (opened order) :=
  (History.holds_store h (opened order)).replay spares

/-- The run of an order stays in the history while there is room for it. -/
theorem exists_get?_runAmid (fresh : ∀ s ∈ h.recent, s.id ≠ order.id)
    (spares : ∀ a ∈ during ++ after, a.Spares order.id) (adds : ∀ a ∈ during ++ after, a.Adds)
    (room : History.stored (during ++ after) < h.capacity) :
    ∃ r, (runAmid w source h order during after).2.get? order.id = some r := by
  obtain ⟨sparesDuring, sparesAfter⟩ := List.forall_mem_append.mp spares
  obtain ⟨addsDuring, addsAfter⟩ := List.forall_mem_append.mp adds
  rw [History.stored, List.countP_append] at room
  have opening := (History.keeps_store (r := opened order) fresh).replay sparesDuring addsDuring
    (by
      show 0 + History.stored during < h.capacity
      rw [History.stored]
      omega)
  have capacity : ((h.store (opened order)).replay during).capacity = h.capacity :=
    History.capacity_replay
  cases ended : (outcome w source order).value with
  | error f =>
      rw [runAmid_of_error ended]
      have kept := opening.replay sparesAfter addsAfter (by
        rw [capacity, History.stored, History.stored]
        omega)
      exact ⟨_, kept.get?⟩
  | ok update =>
      rw [runAmid_of_ok ended]
      have kept := (opening.update update).replay sparesAfter addsAfter (by
        rw [History.capacity_update, capacity, History.stored, History.stored]
        omega)
      exact ⟨_, kept.get?⟩

/-- A run ends, and the history holds it as it has ended whatever other runs do to the history, exactly
if no attempt puts out entries without names. Otherwise it ends with a fault, and the history holds it
as it was opened. It is in the history while there is room for it. -/
theorem runAmid_closes_iff (w : World) (source : Source) (h : History) (order : Order)
    (during after : List History.Act)
    (given : order.inputs = .null ∨ ∃ entries, order.inputs = .dict entries)
    (spares : ∀ a ∈ during ++ after, a.Spares order.id) :
    ((∃ r history, runAmid w source h order during after = (.ok r, history) ∧ r.id = order.id ∧
        r.Closed ∧ history.Holds order.id r) ↔
      ∀ v ∈ visits w source order, ¬v.step.PutsNameless w v.context) ∧
    ((∃ v ∈ visits w source order, v.step.PutsNameless w v.context) →
      ∃ f history, runAmid w source h order during after = (.error f, history) ∧
        history.Holds order.id (opened order) ∧ (opened order).status = .running) ∧
    ((∀ s ∈ h.recent, s.id ≠ order.id) → (∀ a ∈ during ++ after, a.Adds) →
      History.stored (during ++ after) < h.capacity →
        ∃ r, (runAmid w source h order during after).2.get? order.id = some r) := by
  obtain ⟨sparesDuring, sparesAfter⟩ := List.forall_mem_append.mp spares
  have held := holds_replay_store (h := h) sparesDuring
  refine ⟨?_, ?_, fun fresh adds room => exists_get?_runAmid fresh spares adds room⟩
  · rcases outcome_cases given with ⟨update, ended, closed, named⟩ | ⟨f, failed, v, inside, nameless⟩
    · refine iff_of_true ⟨_, _, runAmid_of_ok ended, rfl, closed, ?_⟩ named
      exact (held.update update).replay sparesAfter
    · refine iff_of_false ?_ (fun named => named v inside nameless)
      rintro ⟨r, history, ran, -⟩
      rw [runAmid_of_error failed] at ran
      cases ran
  · rintro ⟨v, inside, nameless⟩
    rcases outcome_cases given with ⟨update, ended, closed, named⟩ | ⟨f, failed, -⟩
    · exact absurd nameless (named v inside)
    · exact ⟨f, _, runAmid_of_error failed, held.replay sparesAfter, rfl⟩

end Amid

/-! ### A script that puts out a number under a number -/

def unnamed : Step :=
  { id := "a"
    kind := StepKind.script.name
    config := [("script", .text "{1: 2}")] }

/-- A workflow of one step. -/
def alone (s : Step) : Workflow := { id := "alone", name := "Alone", steps := [s] }

/-- A source that knows one workflow. -/
def only (definition : Workflow) : Source :=
  fun id => .ok (if id = definition.id then some definition else none)

/-- An order of a workflow of one step. -/
def ordered : Order := { bare with workflow := "alone" }

theorem putsNameless_unnamed : unnamed.PutsNameless silent { inputs := [], run := "run" } := by
  have plan : Plan.ofStep unnamed = .script { script := "{1: 2}" } := by
    rw [Plan.ofStep]
    rfl
  have nameless : (ScriptStep.run { inputs := [], run := "run" } { script := "{1: 2}" } []).toOption.any
      (fun entries => entries.any fun e => !e.1.isName) = true := by
    decide +kernel
  obtain ⟨entries, produced, nameless⟩ := exists_of_toOption_any nameless
  obtain ⟨e, member, noName⟩ := List.any_eq_true.mp nameless
  refine ⟨by decide, _, _, entries, plan, rfl, produced, e, member, ?_⟩
  rwa [Bool.not_eq_true'] at noName

theorem prepare_unnamed : ∃ g, prepare silent (only (alone unnamed)) "alone" = .ok (alone unnamed, g) ∧
    g.stepsByLevel (alone unnamed) = [[unnamed]] := by
  have walked : Graph.walk ((alone unnamed).steps.map (·.id))
      (DependencyGraph.dependenciesIn (DependencyGraph.edgesOf (alone unnamed))) = .ok ["a"] := by
    simp [Graph.walk, Graph.walkFrom, alone, unnamed, DependencyGraph.edgesOf,
      DependencyGraph.dependenciesIn, DependencyGraph.fileEdges]
  refine ⟨_, prepare_eq_ok.mpr ⟨rfl, DependencyGraph.ofWorkflow_eq_ok.mpr ⟨rfl, _, walked, rfl⟩, ?_⟩,
    rfl⟩
  decide

theorem outcome_unnamed : ∃ f, (outcome silent (only (alone unnamed)) ordered).value = .error f ∧
    visits silent (only (alone unnamed)) ordered = [⟨{ inputs := [], run := "run" }, unnamed⟩] := by
  obtain ⟨g, prepared, levels⟩ := prepare_unnamed
  obtain ⟨f, failed⟩ := Step.attempt_eq_error_iff.mpr putsNameless_unnamed
  have faulty : StepResult.all ([unnamed].map (attempts silent { inputs := [], run := "run" })) =
      .error f := by
    rw [List.map_singleton, StepResult.all, attempts, failed]
    rfl
  have ran : Levels.run (noting (attempts silent)) { inputs := [], run := ordered.id } [[unnamed]] =
      ⟨.error f, [⟨{ inputs := [], run := "run" }, unnamed⟩]⟩ :=
    Levels.run_noting_cons_of_stops (.fault faulty)
  rw [outcome_value, visits, outcomeBy_noting (attempts silent) prepared rfl, levels, ran]
  exact ⟨f, rfl, rfl⟩

theorem run_unnamed : ∃ f history r,
    (run silent (only (alone unnamed)) single ordered).value = (.error f, history) ∧
      history.get? "run" = some r ∧ r.status = .running := by
  obtain ⟨f, failed, -⟩ := outcome_unnamed
  have ran : runAmid silent (only (alone unnamed)) single ordered [] [] =
      (.error f, single.store (opened ordered)) :=
    runAmid_of_error failed
  rw [runAmid_nil] at ran
  exact ⟨f, _, opened ordered, ran, rfl, rfl⟩

theorem runAmid_ordered :
    (∃ r history, runAmid silent (fun _ => .ok none) single ordered [.clear]
        [.store { opened ordered with id := "other" }] = (.ok r, history) ∧
      r.Closed ∧ history.Holds "run" r) ∧
    ∃ f history, runAmid silent (only (alone unnamed)) single ordered []
        [.update "other" {}] = (.error f, history) ∧
      history.Holds "run" (opened ordered) ∧ history.get? "run" = some (opened ordered) := by
  constructor
  · have spares : ∀ a ∈ [.clear, .store { opened ordered with id := "other" }],
        History.Act.Spares ordered.id a := by
      simp [History.Act.Spares, ordered, bare]
    obtain ⟨closes, -, -⟩ := runAmid_closes_iff silent (fun _ => .ok none) single ordered [.clear]
      [.store { opened ordered with id := "other" }] (Or.inl rfl) spares
    obtain ⟨r, history, ran, -, closed, holds⟩ := closes.mpr (fun v inside => nomatch inside)
    exact ⟨r, history, ran, closed, holds⟩
  · have spares : ∀ a ∈ [.update "other" {}], History.Act.Spares ordered.id a := by
      simp [History.Act.Spares, ordered, bare]
    obtain ⟨-, faults, kept⟩ := runAmid_closes_iff silent (only (alone unnamed)) single ordered []
      [.update "other" {}] (Or.inl rfl) spares
    obtain ⟨g, failed, made⟩ := outcome_unnamed
    obtain ⟨f, history, ran, holds, -⟩ := faults ⟨⟨{ inputs := [], run := "run" }, unnamed⟩, by
      rw [made]
      exact List.mem_singleton_self _, putsNameless_unnamed⟩
    obtain ⟨r, found⟩ := kept (fun s absent => nomatch absent) (by simp [History.Act.Adds]) Nat.one_pos
    rw [ran] at found
    exact ⟨f, history, ran, holds, found.trans (congrArg some (holds r found))⟩

end Engine

end Stepwise
