import Stepwise.Proofs.Execution.Agreement
import Stepwise.Proofs.Execution.Closing
import Stepwise.Proofs.Workflow.Rearranged

/-!
Runs of workflows that declare the same steps in different orders. Where an attempt does not depend on
more than what the inputs of its step come to, the runs make the same attempts and end alike.
-/

namespace Stepwise

/-- The run has failed with one error, which is about a step. -/
structure Run.Blames (r : Run) (step message : String) : Prop where
  status : r.status = .failed
  results : r.results = []
  error : ∃ e, r.errors = [e] ∧ e.step = step ∧ e.message = message

namespace Engine

open Levels (Attempts came failureText noting)

/-- How two runs end, of two workflows with the same steps, that have made the same attempts. -/
inductive Corresponds (definition other : Workflow) (made : List (Step × Checked StepResult)) :
    Checked Run → Checked Run → Prop where
  | fault (f f' : Fault) : Corresponds definition other made (.error f) (.error f')
  | refused {r r' : Run} {e e' : DefinitionError} (kind : e.SameKind e')
      (one : r.Blames RunError.wholeWorkflow e.message)
      (two : r'.Blames RunError.wholeWorkflow e'.message) :
      Corresponds definition other made (.ok r) (.ok r')
  | completed {r r' : Run} (one : r.status = .completed ∧ r.errors = [])
      (two : r'.status = .completed ∧ r'.errors = []) (perm : r.results.Perm r'.results)
      (same : ∀ name, Fields.get? r.results name = Fields.get? r'.results name) :
      Corresponds definition other made (.ok r) (.ok r')
  | failed {r r' : Run} {g k : DependencyGraph} {s t : Step} {m n : String}
      (built : DependencyGraph.ofWorkflow definition = .ok g)
      (rebuilt : DependencyGraph.ofWorkflow other = .ok k)
      (levels : ∀ u ∈ definition.steps, g.rank u = k.rank u)
      (one : r.Blames s.id (failureText m)) (two : r'.Blames t.id (failureText n))
      (failedOne : (s, .ok ⟨s.id, .failed m⟩) ∈ made)
      (failedTwo : (t, .ok ⟨t.id, .failed n⟩) ∈ made) (level : g.rank s = g.rank t)
      (only : ∀ u result, (u, .ok result) ∈ made → result.failure? ≠ none → g.rank u = g.rank s) :
      Corresponds definition other made (.ok r) (.ok r')

/-- Attempts that know of a run no more than what the inputs of the step come to: whatever is done with
these, and remote calls and completions in runs of one id. -/
inductive Blind (w : World) (definition : Workflow) (order order' : Order) :
    Levels.Runner Traced → Prop where
  | given (execute : Step → Fields → Asked Entries) :
      Blind w definition order order' fun ctx s => attempt w ctx s (execute s)
  | own (scripts : ∀ s ∈ definition.steps, ∀ c, Plan.ofStep s ≠ .script c)
      (groups : ∀ s ∈ definition.steps, ∀ subs, Plan.ofStep s ≠ .group subs)
      (ids : order.id = order'.id) : Blind w definition order order' fun ctx s => s.attempt w ctx

/-- What the attempts of a run come to, step by step. -/
def made (attempt : Levels.Runner Traced) (w : World) (source : Source) (order : Order) :
    List (Step × Checked StepResult) :=
  let a : Attempts := fun c s => (attempt c s).value
  (outcomeBy (noting a) w source order).visits.map (came a)

/-! ### Attempts that are blind -/

section Blind

variable {w : World} {definition : Workflow} {order order' : Order} {runner : Levels.Runner Traced}

theorem Blind.steady (blind : Blind w definition order order' runner) :
    Levels.Steady definition.steps order.id order'.id fun c s => (runner c s).value := by
  intro s member c d agree run run'
  cases blind with
  | given execute =>
      show (attempt w c s (execute s)).value = (attempt w d s (execute s)).value
      simp only [attempt, Fields.resolve_of_agree agree]
  | own scripts groups ids =>
      have executed (inputs : Fields) : (Plan.ofStep s).execute w c s inputs =
          (Plan.ofStep s).execute w d s inputs := by
        cases plan : Plan.ofStep s with
        | unknown kind => rw [Plan.execute, Plan.execute]
        | misfit kind report => rw [Plan.execute, Plan.execute]
        | remote config => rw [Plan.execute, Plan.execute]
        | completion config =>
            rw [Plan.execute, Plan.execute, Completion.request, Completion.request, run, run', ids]
        | script config => exact absurd plan (scripts s member config)
        | group subs => exact absurd plan (groups s member subs)
      show (s.attempt w c).value = (s.attempt w d).value
      simp only [Step.attempt, attempt, Fields.resolve_of_agree agree, executed]

theorem Blind.named (blind : Blind w definition order order' runner) :
    Levels.Named fun c s => (runner c s).value := by
  intro ctx s r attempted
  cases blind with
  | given execute => exact settle_step attempted
  | own scripts groups ids => exact settle_step attempted

end Blind

/-! ### Two runs up the levels -/

theorem blames_failed (o : Order) (step message : String) :
    ((opened o).update (closing o.ended (.failed step message))).Blames step message :=
  ⟨rfl, rfl, _, rfl, rfl, rfl⟩

def kept (result : Step × Checked StepResult) : String × Value :=
  (result.1.id, .ofFields (match result.2 with
    | .ok r => r.outputs
    | .error _ => []))

theorem map_kept_came (a : Attempts) (visits : List Visit) :
    (visits.map (came a)).map kept = visits.map (Visit.entry a) := by
  rw [List.map_map]
  rfl

/-- Where a run stops in a level, all steps that have failed are on this level. -/
theorem rank_of_failed {w : Workflow} {g : DependencyGraph} {a : Attempts} {c final : Context}
    {before : List Visit} {n : Nat} {u : Step} {result : StepResult}
    (built : DependencyGraph.ofWorkflow w = .ok g)
    (passes : Levels.Passes a c ((List.range n).map (g.stepsAt w)) before final)
    (inside : (u, .ok result) ∈ (before ++ (g.stepsAt w n).map (Visit.mk final)).map (came a))
    (failed : result.failure? ≠ none) : g.rank u = n := by
  obtain ⟨visit, member, same⟩ := List.mem_map.mp inside
  obtain ⟨rfl, attempted⟩ := Prod.mk.inj same
  rcases List.mem_append.mp member with earlier | last
  · obtain ⟨r, completed, clean⟩ := passes.completes earlier
    rw [attempted] at completed
    cases completed
    exact absurd clean failed
  · obtain ⟨s, here, rfl⟩ := List.mem_map.mp last
    exact ((DependencyGraph.mem_stepsAt built).mp here).2

section Levels

variable {w v : Workflow} {g k : DependencyGraph} {a : Attempts} {c d final : Context}
  {visits : List Visit} {n : Nat}
  (perm : w.steps.Perm v.steps) (distinct : w.Distinct)
  (built : DependencyGraph.ofWorkflow w = .ok g) (rebuilt : DependencyGraph.ofWorkflow v = .ok k)
include perm distinct built rebuilt

theorem forall₂_levels (n : Nat) : List.Forall₂ List.Perm ((List.range n).map (g.stepsAt w))
    ((List.range n).map (k.stepsAt v)) := by
  rw [List.forall₂_map_left_iff, List.forall₂_map_right_iff, List.forall₂_same]
  exact fun n _ => DependencyGraph.stepsAt_rearranged perm distinct built rebuilt n

variable (named : Levels.Named a) (agree : c.Agree (fun _ => True) d)
  (steady : Levels.Steady w.steps c.run d.run a)
include named agree steady

theorem passes_rearranged
    (passes : Levels.Passes a c ((List.range n).map (g.stepsAt w)) visits final) :
    ∃ visits' final', Levels.Passes a d ((List.range n).map (k.stepsAt v)) visits' final' ∧
      final.Agree (fun _ => True) final' ∧ (visits.map (came a)).Perm (visits'.map (came a)) := by
  refine passes.rearranged (forall₂_levels perm distinct built rebuilt n) named
    (Levels.nodup_flatten_ids built distinct) agree (steady.mono ?_)
  exact fun s member => ((DependencyGraph.mem_flatten_stepsAt built).mp member).1

variable (o o' : Order)

theorem corresponds_of_passes (empty : c.results = []) (empty' : d.results = [])
    (passes : Levels.Passes a c (g.stepsByLevel w) visits final) :
    ∃ visits' final', Levels.Passes a d (k.stepsByLevel v) visits' final' ∧
      (visits.map (came a)).Perm (visits'.map (came a)) ∧
      Corresponds w v (visits.map (came a))
        (.ok ((opened o).update (closing o.ended (.completed final.results))))
        (.ok ((opened o').update (closing o'.ended (.completed final'.results)))) := by
  obtain ⟨visits', final', passes', agree', same⟩ :=
    passes_rearranged perm distinct built rebuilt named agree steady passes
  have results := congrArg Context.results (passes.results_of_empty built distinct named empty)
  have results' := congrArg Context.results
    (passes'.results_of_empty rebuilt (distinct.rearranged perm) named empty')
  have heights := DependencyGraph.height_rearranged perm distinct built rebuilt
  refine ⟨visits', final', ?_, same, .completed ⟨rfl, rfl⟩ ⟨rfl, rfl⟩ ?_ ?_⟩
  · rw [DependencyGraph.stepsByLevel, ← heights]
    exact passes'
  · show final.results.Perm final'.results
    rw [results, results', ← map_kept_came, ← map_kept_came]
    exact same.map kept
  · exact fun name => agree'.results name trivial

theorem corresponds_of_stops {before : List Visit} {ending : Checked Ending}
    (passes : Levels.Passes a c ((List.range n).map (g.stepsAt w)) before final)
    (stops : Levels.Stops a final (g.stepsAt w n) ending) :
    ∃ before' final' ending',
      Levels.Passes a d ((List.range n).map (k.stepsAt v)) before' final' ∧
      Levels.Stops a final' (k.stepsAt v n) ending' ∧
      ((before ++ (g.stepsAt w n).map (Visit.mk final)).map (came a)).Perm
        ((before' ++ (k.stepsAt v n).map (Visit.mk final')).map (came a)) ∧
      Corresponds w v ((before ++ (g.stepsAt w n).map (Visit.mk final)).map (came a))
        (ending.map fun e => (opened o).update (closing o.ended e))
        (ending'.map fun e => (opened o').update (closing o'.ended e)) := by
  obtain ⟨before', final', passes', agree', same⟩ :=
    passes_rearranged perm distinct built rebuilt named agree steady passes
  have here := DependencyGraph.stepsAt_rearranged perm distinct built rebuilt n
  have steadyHere : Levels.Steady (g.stepsAt w n) final.run final'.run a := by
    rw [passes.inputs_eq.2, passes'.inputs_eq.2]
    exact steady.mono fun s member => ((DependencyGraph.mem_stepsAt built).mp member).1
  have made : ((before ++ (g.stepsAt w n).map (Visit.mk final)).map (came a)).Perm
      ((before' ++ (k.stepsAt v n).map (Visit.mk final')).map (came a)) := by
    rw [List.map_append, List.map_append]
    exact same.append (steadyHere.came_perm agree' here)
  rcases stops.rearranged named here agree' steadyHere with
    ⟨f, f', rfl, stops'⟩ | ⟨e, e', rfl, stops', reports, reports'⟩
  · exact ⟨before', final', _, passes', stops', made, .fault f f'⟩
  · refine ⟨before', final', _, passes', stops', made, ?_⟩
    cases reports with
    | @mk s m present failed =>
        cases reports' with
        | @mk t l present' failed' =>
            have ranked := (DependencyGraph.mem_stepsAt built).mp present
            have again := (DependencyGraph.mem_stepsAt rebuilt).mp present'
            have equal : g.rank t = k.rank t := DependencyGraph.rank_rearranged perm distinct built
              rebuilt (perm.mem_iff.mpr again.1)
            refine .failed built rebuilt (fun u member => DependencyGraph.rank_rearranged perm
              distinct built rebuilt member) (blames_failed o _ _) (blames_failed o' _ _) ?_ ?_ ?_ ?_
            · exact List.mem_map.mpr ⟨⟨final, s⟩, List.mem_append_right _
                (List.mem_map.mpr ⟨s, present, rfl⟩), Prod.ext rfl failed⟩
            · refine made.mem_iff.mpr (List.mem_map.mpr ⟨⟨final', t⟩, List.mem_append_right _
                (List.mem_map.mpr ⟨t, present', rfl⟩), Prod.ext rfl failed'⟩)
            · rw [ranked.2, equal, again.2]
            · intro u result inside fails
              rw [ranked.2]
              exact rank_of_failed built passes inside fails

/-- Two runs up the levels make the same attempts and end alike. -/
theorem corresponds_of_run (empty : c.results = []) (empty' : d.results = []) :
    ((Levels.run (noting a) c (g.stepsByLevel w)).visits.map (came a)).Perm
        ((Levels.run (noting a) d (k.stepsByLevel v)).visits.map (came a)) ∧
      Corresponds w v ((Levels.run (noting a) c (g.stepsByLevel w)).visits.map (came a))
        ((Levels.run (noting a) c (g.stepsByLevel w)).value.map
          fun e => (opened o).update (closing o.ended e))
        ((Levels.run (noting a) d (k.stepsByLevel v)).value.map
          fun e => (opened o').update (closing o'.ended e)) := by
  rcases Levels.run_noting a c (g.stepsByLevel w) with
    ⟨visits, final, passes, ran⟩ | ⟨pre, steps, post, before, final, ending, levels, passes, stops, ran⟩
  · obtain ⟨visits', final', passes', same, corresponds⟩ :=
      corresponds_of_passes perm distinct built rebuilt named agree steady o o' empty empty' passes
    have ran' := passes'.run_append []
    rw [List.append_nil] at ran'
    have done : Levels.run (noting a) final' [] = ⟨.ok (.completed final'.results), []⟩ := rfl
    rw [ran, ran', done, List.append_nil]
    exact ⟨same, corresponds⟩
  · obtain ⟨n, below, rfl, rfl, -⟩ := range_map_eq_append levels
    obtain ⟨before', final', ending', passes', stops', same, corresponds⟩ :=
      corresponds_of_stops perm distinct built rebuilt named agree steady o o' passes stops
    -- The other workflow has the level as well, behind as many levels.
    obtain ⟨more, heights⟩ := Nat.exists_eq_add_of_lt below
    have levels' : k.stepsByLevel v = (List.range n).map (k.stepsAt v) ++
        (k.stepsAt v n :: ((List.range more).map (n + 1 + ·)).map (k.stepsAt v)) := by
      have height : k.height = n + 1 + more := by
        rw [← DependencyGraph.height_rearranged perm distinct built rebuilt, heights]
        omega
      rw [DependencyGraph.stepsByLevel, height, List.range_add, List.map_append, List.range_succ,
        List.map_append, List.append_assoc]
      rfl
    have ran' := passes'.run_append
      (k.stepsAt v n :: ((List.range more).map (n + 1 + ·)).map (k.stepsAt v))
    rw [← levels', Levels.run_noting_cons_of_stops stops'] at ran'
    rw [ran, ran']
    exact ⟨same, corresponds⟩

end Levels

/-! ### Two runs of the engine -/

section Runs

variable {w : World} {definition other : Workflow} {source source' : Source} {order order' : Order}
  {g k : DependencyGraph}

theorem value_runBy (runner : Levels.Runner Traced) (h : History) :
    (runBy runner w source h order).value.1 =
      (outcomeBy runner w source order).value.map (opened order).update := by
  simp only [runBy, bind]
  cases (outcomeBy runner w source order).value <;> rfl

theorem prepare_of_unbuilt {id : String} {e : DefinitionError}
    (stored : source id = .ok (some definition))
    (failed : DependencyGraph.ofWorkflow definition = .error e) :
    prepare w source id = .error (.definition e) := by
  simp only [prepare, stored, pure_bind, failed]
  rfl

theorem prepare_of_unexecutable {id : String} {s : Step}
    (stored : source id = .ok (some definition))
    (built : DependencyGraph.ofWorkflow definition = .ok g)
    (missing : unexecutable? w definition = some s) :
    prepare w source id = .error (.definition (.noExecutor s.kind)) := by
  simp only [prepare, stored, pure_bind, built, missing]
  rfl

theorem outcomeBy_of_refused (attempt : Attempts) {e : StartError}
    (refused : prepare w source order.workflow = .error e) :
    outcomeBy (noting attempt) w source order =
      ⟨.ok (failure order.ended RunError.wholeWorkflow e.message e.stack?), []⟩ := by
  simp only [outcomeBy, refused, pure]

theorem outcomeBy_of_uninformed (attempt : Attempts) {f : Fault}
    (prepared : prepare w source order.workflow = .ok (definition, g))
    (failed : inputsOf order.inputs = .error f) :
    outcomeBy (noting attempt) w source order = ⟨.error f, []⟩ := by
  simp only [outcomeBy, prepared, failed, pure]

theorem prepare_rearranged (perm : definition.steps.Perm other.steps) (distinct : definition.Distinct)
    (stored : source order.workflow = .ok (some definition))
    (stored' : source' order'.workflow = .ok (some other)) :
    (∃ g k, prepare w source order.workflow = .ok (definition, g) ∧
        prepare w source' order'.workflow = .ok (other, k)) ∨
      ∃ e e', prepare w source order.workflow = .error (.definition e) ∧
        prepare w source' order'.workflow = .error (.definition e') ∧ e.SameKind e' := by
  rcases DependencyGraph.ofWorkflow_rearranged perm distinct with
    ⟨g, k, built, rebuilt⟩ | ⟨e, e', failed, failed', kind⟩
  · have same : unexecutable? w definition = none ↔ unexecutable? w other = none := by
      simp only [unexecutable?_eq_none, perm.mem_iff]
    cases missing : unexecutable? w definition with
    | none =>
        exact Or.inl ⟨g, k, prepare_eq_ok.mpr ⟨stored, built, unexecutable?_eq_none.mp missing⟩,
          prepare_eq_ok.mpr ⟨stored', rebuilt, unexecutable?_eq_none.mp (same.mp missing)⟩⟩
    | some s =>
        cases missing' : unexecutable? w other with
        | none => exact absurd (same.mpr missing') (by simp [missing])
        | some t =>
            exact Or.inr ⟨_, _, prepare_of_unexecutable stored built missing,
              prepare_of_unexecutable stored' rebuilt missing', .noExecutor _ _⟩
  · exact Or.inr ⟨e, e', prepare_of_unbuilt stored failed, prepare_of_unbuilt stored' failed', kind⟩

/-- It does not matter in which order a workflow declares its steps. Two runs of the same steps with the
same inputs make the same attempts, and these come to the same: then both fail for the same reason before
any attempt, or complete with the same outputs of each step, or fail on the same level, each with one of
the steps that have failed there. -/
theorem runBy_rearranged (w : World) {definition other : Workflow}
    (perm : definition.steps.Perm other.steps) (distinct : definition.Distinct)
    {source source' : Source} {order order' : Order} (h h' : History)
    (stored : source order.workflow = .ok (some definition))
    (stored' : source' order'.workflow = .ok (some other)) (inputs : order.inputs = order'.inputs)
    {runner : Levels.Runner Traced} (blind : Blind w definition order order' runner) :
    (made runner w source order).Perm (made runner w source' order') ∧
      Corresponds definition other (made runner w source order)
        (runBy runner w source h order).value.1 (runBy runner w source' h' order').value.1 := by
  rw [value_runBy, value_runBy, outcomeBy_value, outcomeBy_value, made, made]
  rcases prepare_rearranged (w := w) perm distinct stored stored' with
    ⟨g, k, prepared, prepared'⟩ | ⟨e, e', refused, refused', kind⟩
  · cases given : inputsOf order.inputs with
    | error f =>
        have given' : inputsOf order'.inputs = .error f := inputs ▸ given
        rw [outcomeBy_of_uninformed _ prepared given, outcomeBy_of_uninformed _ prepared' given']
        exact ⟨.nil, .fault f f⟩
    | ok entries =>
        have given' : inputsOf order'.inputs = .ok entries := inputs ▸ given
        rw [outcomeBy_noting _ prepared given, outcomeBy_noting _ prepared' given']
        have agree : Context.Agree (fun _ => True) { inputs := entries, run := order.id }
            { inputs := entries, run := order'.id } := ⟨rfl, fun _ _ => rfl⟩
        have closed (o : Order) (x : Checked Ending) : (x.map (closing o.ended)).map (opened o).update =
            x.map fun e => (opened o).update (closing o.ended e) := by
          cases x <;> rfl
        simp only [closed]
        exact corresponds_of_run perm distinct (prepare_eq_ok.mp prepared).2.1
          (prepare_eq_ok.mp prepared').2.1 blind.named agree blind.steady order order' rfl rfl
  · rw [outcomeBy_of_refused _ refused, outcomeBy_of_refused _ refused']
    exact ⟨.nil, .refused kind ⟨rfl, rfl, _, rfl, rfl, rfl⟩ ⟨rfl, rfl, _, rfl, rfl, rfl⟩⟩

end Runs

/-- Two steps that do not depend on each other, in the other order. -/
def swapped : Workflow :=
  { DependencyGraph.twoSteps [] [] with steps := (DependencyGraph.twoSteps [] []).steps.reverse }

def failing : Levels.Runner Traced :=
  fun ctx s => attempt silent ctx s fun _ => throw (.scriptResult s.id)

theorem runBy_swapped :
    (made failing silent (fun _ => .ok (some (DependencyGraph.twoSteps [] []))) bare).Perm
        (made failing silent (fun _ => .ok (some swapped)) bare) ∧
      Corresponds (DependencyGraph.twoSteps [] []) swapped
        (made failing silent (fun _ => .ok (some (DependencyGraph.twoSteps [] []))) bare)
        (runBy failing silent (fun _ => .ok (some (DependencyGraph.twoSteps [] []))) single bare).value.1
        (runBy failing silent (fun _ => .ok (some swapped)) single bare).value.1 :=
  runBy_rearranged silent (List.reverse_perm _).symm (DependencyGraph.distinct_twoSteps [] []) single
    single rfl rfl rfl (.given fun s _ => throw (.scriptResult s.id))

end Engine

end Stepwise
