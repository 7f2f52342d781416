import Mathlib.Algebra.Order.BigOperators.Group.List
import Mathlib.Algebra.Order.Group.Nat
import Stepwise.Proofs.Execution.Asking
import Stepwise.Proofs.Execution.Closing
import Stepwise.Proofs.Execution.Group
import Stepwise.Proofs.Execution.Leaves

/-!
Requests of steps and of runs. Groups ask for nothing by themselves: the requests of a step are those of
the steps without sub-steps below it, one each at most. A run attempts no step twice, and none above the
level that a step has failed in.
-/

namespace Stepwise

/-! ### Shares -/

/-- What is asked for a leaf: one request at most, and a fetch only by a remote step with a
configuration, for an endpoint that there is, among inputs with a token. -/
structure Share (given : Leaf → Fields → Prop) (leaf : Leaf) (share : Trace) : Prop where
  once : share.requests ≤ 1
  fetches : share.fetches ≠ [] → ∃ config received, leaf.plan = .remote config ∧ given leaf received ∧
    (Fields.getD received "access_token").truthy = .ok true ∧
    config.endpoint ∈ Remote.endpoints.map (·.1)
  completions : share.completions ≠ [] → ∃ config, leaf.plan = .completion config
  script : leaf.plan.kind? = some .script → share.requests = 0

/-- The requests are shared among leaves, in their order. -/
def Shared (given : Leaf → Fields → Prop) (leaves : List Leaf) (t : Trace) : Prop :=
  ∃ shares, List.Forall₂ (Share given) leaves shares ∧ t.AsksAs (.join shares)

section Shared

variable {given given' : Leaf → Fields → Prop} {leaf : Leaf} {leaves more : List Leaf} {t u : Trace}

theorem Share.empty : Share given leaf {} where
  once := Nat.zero_le 1
  fetches asked := absurd rfl asked
  completions asked := absurd rfl asked
  script _ := rfl

theorem Share.imp {share : Trace} (shared : Share given leaf share)
    (implies : ∀ received, given leaf received → given' leaf received) : Share given' leaf share where
  once := shared.once
  fetches asked := by
    obtain ⟨config, received, planned, atLeaf, rest⟩ := shared.fetches asked
    exact ⟨config, received, planned, implies received atLeaf, rest⟩
  completions := shared.completions
  script := shared.script

theorem Shared.of_quiet (quiet : t.requests = 0) : Shared given leaves t := by
  refine ⟨leaves.map fun _ => {}, ?_, ?_⟩
  · rw [List.forall₂_map_right_iff]
    exact List.forall₂_same.mpr fun _ _ => .empty
  · obtain ⟨fetches, completions⟩ := Trace.requests_eq_zero.mp quiet
    rw [List.map_const', Trace.join_replicate_empty]
    exact ⟨fetches, completions⟩

theorem Shared.single (share : Share given leaf t) : Shared given [leaf] t :=
  ⟨[t], .cons share .nil, congrArg _ (Trace.append_empty t).symm,
    congrArg _ (Trace.append_empty t).symm⟩

theorem Shared.append (first : Shared given leaves t) (second : Shared given more u) :
    Shared given (leaves ++ more) (t ++ u) := by
  obtain ⟨shares, each, asks⟩ := first
  obtain ⟨others, eachOther, asksOther⟩ := second
  refine ⟨shares ++ others, List.rel_append each eachOther, ?_⟩
  rw [Trace.join_append]
  exact asks.append asksOther

theorem Shared.imp (shared : Shared given leaves t)
    (implies : ∀ leaf received, given leaf received → given' leaf received) :
    Shared given' leaves t := by
  obtain ⟨shares, each, asks⟩ := shared
  exact ⟨shares, each.imp fun leaf share one => one.imp (implies leaf), asks⟩

/-- What the leaves of a sub-step share they share as leaves of its group. -/
theorem Shared.below {sub : Step} (shared : Shared (fun l => given (l.below sub)) leaves t) :
    Shared given (leaves.map (Leaf.below sub)) t := by
  obtain ⟨shares, each, asks⟩ := shared
  refine ⟨shares, ?_, asks⟩
  rw [List.forall₂_map_left_iff]
  exact each.imp fun l share one => ⟨one.once, one.fetches, one.completions, one.script⟩

theorem Shared.requests_le (shared : Shared given leaves t) : t.requests ≤ leaves.length := by
  obtain ⟨shares, each, asks⟩ := shared
  rw [asks.requests]
  clear asks
  induction each with
  | nil => exact Nat.le_refl 0
  | cons one rest ih =>
      rw [Trace.join_cons, Trace.requests_append, List.length_cons]
      have bound := one.once
      omega

end Shared

/-! ### Attempts -/

variable {w : World} {ctx : Context}

/-- What the executor of a leaf is given where that of the step above is given inputs. -/
def Leaf.Given (w : World) (ctx : Context) (held : Fields) (plan : Plan) (leaf : Leaf)
    (received : Fields) : Prop :=
  leaf.way = [] ∧ received = held ∨ Group.Hands w ctx held plan leaf.way received

/-- What the executor of a leaf is given in an attempt at the step above. -/
def Leaf.Gets (w : World) (ctx : Context) (s : Step) (plan : Plan) (leaf : Leaf)
    (received : Fields) : Prop :=
  ∃ held, s.Receives w ctx held ∧ leaf.Given w ctx held plan received

theorem Leaf.given_below {held received : Fields} {subs : List (Step × Plan)} {sub : Step} {plan : Plan}
    {leaf : Leaf} (member : (sub, plan) ∈ subs)
    (gets : leaf.Gets w ctx (Group.overlaid held sub) plan received) :
    (leaf.below sub).Given w ctx held (.group subs) received := by
  obtain ⟨between, receives, ⟨last, rfl⟩ | further⟩ := gets
  · refine Or.inr ?_
    rw [below, last]
    exact .direct member receives
  · exact Or.inr (.deeper member receives further)

/-- An attempt asks for what the executor asks for, if it comes to that. -/
theorem shared_attempt {given : Fields → Leaf → Fields → Prop} {s : Step} {leaves : List Leaf}
    {execute : Fields → Asked Entries}
    (executed : ∀ held, Shared (given held) leaves (execute held).run.trace) :
    Shared (fun leaf received => ∃ held, s.Receives w ctx held ∧ given held leaf received) leaves
      (attempt w ctx s execute).trace := by
  rcases trace_attempt_cases w ctx s with ⟨held, registered, resolved, asks⟩ | none
  · rw [asks]
    exact (executed held).imp fun leaf received atLeaf =>
      ⟨held, Step.receives_of_resolved registered resolved, atLeaf⟩
  · rw [none]
    exact .of_quiet rfl

theorem trace_attempts_cons {subs : List (Step × Plan)} {sub : Step} {plan : Plan} {held : Fields} :
    (Plan.execute.attempts w ctx held ((sub, plan) :: subs)).trace =
      (attempt w ctx (Group.overlaid held sub)
        fun own => plan.execute w ctx (Group.overlaid held sub) own).trace ++
      (Plan.execute.attempts w ctx held subs).trace := by
  rw [Plan.execute.attempts]
  simp only [bind, pure, Trace.append_empty]

theorem trace_execute_group (subs : List (Step × Plan)) (step : Step) (held : Fields) :
    ((Plan.group subs).execute w ctx step held).run.trace.requests = 0 ∨
      ((Plan.group subs).execute w ctx step held).run.trace.AsksAs
        (Plan.execute.attempts w ctx held subs).trace := by
  rw [Plan.execute, Asked.trace_guard, Asked.trace_guard]
  split
  · exact Or.inl rfl
  · split
    · exact Or.inl rfl
    · refine Or.inr ?_
      have quiet : Asked.Quiet (Fields.entries <$> Group.conclude step.id
          (Plan.execute.attempts w ctx held subs).value) :=
        (Group.quiet_conclude step.id _).map _
      rw [Asked.trace_bind, Asked.trace_lift]
      constructor
      · rw [Trace.fetches_append]
        exact (congrArg _ quiet.trace.1).trans (List.append_nil _)
      · rw [Trace.completions_append]
        exact (congrArg _ quiet.trace.2).trans (List.append_nil _)

/-- The requests of an executor are shared among the leaves of its plan. The induction is on the plan,
for any step that has it: sub-steps are attempted with the inputs of their group. -/
theorem shared_execute (plan : Plan) (t step : Step) (held : Fields) :
    Shared (Leaf.Given w ctx held plan) (plan.leaves t) (plan.execute w ctx step held).run.trace := by
  induction plan using Plan.membersInduction generalizing t step held with
  | single plan alone =>
      cases plan with
      | unknown kind =>
          rw [Plan.execute]
          exact .of_quiet rfl
      | misfit kind report =>
          rw [Plan.execute]
          exact .of_quiet rfl
      | remote config =>
          have makes := Remote.makes_call w held config
          rw [Plan.execute, Asked.trace_map]
          refine .single ⟨?_, ?_, ?_, ?_⟩
          · exact Nat.add_le_add makes.1 makes.2
          · intro asked
            obtain ⟨token, known⟩ := Remote.call_of_fetches w held asked
            exact ⟨config, held, rfl, Or.inl ⟨rfl, rfl⟩, token, known⟩
          · intro asked
            exact absurd (List.eq_nil_of_length_eq_zero (Nat.le_zero.mp makes.2)) asked
          · rintro ⟨⟩
      | completion config =>
          have makes := Completion.makes_request w ctx step.outputs config held
          rw [Plan.execute, Asked.trace_map]
          refine .single ⟨?_, ?_, ?_, ?_⟩
          · exact Nat.add_le_add makes.1 makes.2
          · intro asked
            exact absurd (List.eq_nil_of_length_eq_zero (Nat.le_zero.mp makes.1)) asked
          · intro asked
            exact ⟨config, rfl⟩
          · rintro ⟨⟩
      | script config =>
          rw [Plan.execute]
          apply Shared.of_quiet
          cases ScriptStep.run ctx config held <;> rfl
      | group subs => exact absurd rfl (alone subs)
  | group subs ih =>
      rcases trace_execute_group (w := w) subs step held with quiet | asks
      · exact .of_quiet quiet
      · have members (rest : List (Step × Plan)) (inside : ∀ u ∈ rest, u ∈ subs) :
            Shared (Leaf.Given w ctx held (.group subs)) (Plan.leaves.members rest)
              (Plan.execute.attempts w ctx held rest).trace := by
          induction rest with
          | nil => exact .of_quiet rfl
          | cons u rest further =>
              obtain ⟨sub, plan⟩ := u
              have here := List.forall_mem_cons.mp inside
              rw [Plan.leaves.members, trace_attempts_cons]
              refine Shared.append ?_ (further here.2)
              refine Shared.below (Shared.imp (shared_attempt (ih _ here.1 sub _)) ?_)
              exact fun leaf received gets => Leaf.given_below here.1 gets
        obtain ⟨shares, each, asked⟩ := members subs fun _ inside => inside
        rw [Plan.leaves]
        exact ⟨shares, each, asks.1.trans asked.1, asks.2.trans asked.2⟩

/-! ### Runs -/

namespace Levels

/-- A run asks for what its attempts ask for. -/
theorem trace_run (attempt : Runner Traced) (ctx : Context) (levels : List (List Step)) :
    (run attempt ctx levels).trace = .join
      ((run (noting fun c s => (attempt c s).value) ctx levels).visits.map fun v =>
        (attempt v.context v.step).trace) := by
  have attempts (c : Context) (steps : List Step) :
      attemptAll attempt c steps = ⟨steps.map fun s => (attempt c s).value,
        .join (steps.map fun s => (attempt c s).trace)⟩ := by
    induction steps with
    | nil => rfl
    | cons s rest ih => simp only [attemptAll, bind, pure, ih, Trace.append_empty, List.map_cons,
        Trace.join_cons]
  induction levels generalizing ctx with
  | nil => rfl
  | cons steps rest ih =>
      simp only [run, bind, attempts, attemptAll_noting]
      cases StepResult.all (steps.map fun s => (attempt ctx s).value) with
      | error f =>
          simp only [pure, Trace.append_empty, List.append_nil, List.map_map]
          rfl
      | ok results =>
          cases first : firstFailure? results with
          | some failure =>
              simp only [first, pure, Trace.append_empty, List.append_nil, List.map_map]
              rfl
          | none =>
              simp only [first, ih, List.map_append, List.map_map, Trace.join_append]
              rfl

end Levels

namespace Engine

open Levels (noting)

variable {source : Source} {order : Order} {definition : Workflow} {g : DependencyGraph}

theorem trace_run (w : World) (source : Source) (h : History) (order : Order) :
    (run w source h order).trace =
      .join ((visits w source order).map fun v => (v.step.attempt w v.context).trace) := by
  have kept : (run w source h order).trace = (outcome w source order).trace := by
    simp only [run, runBy, outcome, bind]
    split <;> exact Trace.append_empty _
  rw [kept, outcome, visits, outcomeBy, outcomeBy]
  cases prepare w source order.workflow with
  | error e => rfl
  | ok prepared =>
      cases inputsOf order.inputs with
      | error f => rfl
      | ok inputs =>
          simp only [levels, bind, pure, Trace.append_empty, List.append_nil, Levels.trace_run]
          rfl

/-- A run attempts steps of the workflow, none of them twice, and none above the level of a step that has
not completed. -/
theorem visits_of_prepared (prepared : prepare w source order.workflow = .ok (definition, g)) :
    ((visits w source order).map (·.step)).Subperm definition.steps ∧
      ∀ v ∈ visits w source order, ¬v.Completes (attempts w) →
        ∀ u ∈ visits w source order, g.rank u.step ≤ g.rank v.step := by
  obtain ⟨-, built, -⟩ := prepare_eq_ok.mp prepared
  cases given : inputsOf order.inputs with
  | error f =>
      simp only [visits, outcomeBy, prepared, given, pure]
      exact ⟨List.nil_subperm, fun v absent => absurd absent List.not_mem_nil⟩
  | ok inputs =>
      rw [visits, outcomeBy_noting (attempts w) prepared given]
      have all := (DependencyGraph.flatten_stepsByLevel_perm built).subperm
      rcases Levels.run_noting (attempts w) { inputs, run := order.id }
          (g.stepsByLevel definition) with
        ⟨made, final, passes, ran⟩ | ⟨pre, steps, post, before, ctx, ending, levels, passes, -, ran⟩
      · rw [ran, passes.goes.map_step]
        exact ⟨all, fun v inside failed => absurd (passes.completes inside) failed⟩
      · rw [ran]
        constructor
        · have whole : (pre ++ [steps]).flatten ++ post.flatten = (g.stepsByLevel definition).flatten := by
            rw [levels, ← List.flatten_append, List.append_assoc, List.singleton_append]
          rw [(passes.goes_snoc steps).map_step]
          exact (whole ▸ List.sublist_append_left _ _).subperm.trans all
        · -- What has not completed was attempted last, with the rest of its level.
          obtain ⟨k, -, rfl, rfl, -⟩ := range_map_eq_append levels
          have rank {t : Step} (here : t ∈ g.stepsAt definition k) : g.rank t = k :=
            ((DependencyGraph.mem_stepsAt built).mp here).2
          intro v inside failed u made
          have last : v ∈ (g.stepsAt definition k).map (Visit.mk ctx) :=
            (List.mem_append.mp inside).resolve_left fun early => failed (passes.completes early)
          obtain ⟨s, here, rfl⟩ := List.mem_map.mp last
          rw [rank here]
          rcases List.mem_append.mp made with early | late
          · exact Nat.le_of_lt (Levels.rank_lt_of_mem built passes.goes.map_step early).2
          · obtain ⟨t, there, rfl⟩ := List.mem_map.mp late
            exact Nat.le_of_eq (rank there)

/-- An attempt at a step comes to an end and makes one request at most for each leaf below the step. A
fetch is made for a remote step whose configuration can be read, with a token among what it is given and
an endpoint that there is, and none is made for a script. A run makes the requests of its attempts, which
are at steps of the workflow, none of them twice, and none above the level of a step that has not
completed. So it makes one request at most for each leaf of the workflow, and none if there is no workflow
that can be run. -/
theorem requests_of_run (w : World) :
    (∀ (ctx : Context) (s : Step),
      ((∃ r, (s.attempt w ctx).value = .ok r ∧ r.step = s.id) ∨ s.PutsNameless w ctx) ∧
      Shared (Leaf.Gets w ctx s (Plan.ofStep s)) s.leaves (s.attempt w ctx).trace ∧
      (s.attempt w ctx).trace.requests ≤ s.leaves.length) ∧
    (∀ (s t : Step), (∃ leaf ∈ s.leaves, leaf.step = t) ↔
      (t = s ∨ ∃ plan, (Plan.ofStep s).Nests t plan) ∧ StepKind.ofName? t.kind ≠ some .group) ∧
    (∀ (s : Step), ∀ leaf ∈ s.leaves, leaf.plan = Plan.ofStep leaf.step) ∧
    ∀ (source : Source) (h : History) (order : Order),
      (run w source h order).trace =
        .join ((visits w source order).map fun v => (v.step.attempt w v.context).trace) ∧
      (∀ definition g, prepare w source order.workflow = .ok (definition, g) →
        ((visits w source order).map (·.step)).Subperm definition.steps ∧
        (run w source h order).trace.requests ≤
          (definition.steps.map fun s => s.leaves.length).sum ∧
        ∀ v ∈ visits w source order, ¬v.Completes (attempts w) →
          ∀ u ∈ visits w source order, g.rank u.step ≤ g.rank v.step) ∧
      ∀ e, prepare w source order.workflow = .error e → (run w source h order).trace.requests = 0 := by
  have shared (ctx : Context) (s : Step) :
      Shared (Leaf.Gets w ctx s (Plan.ofStep s)) s.leaves (s.attempt w ctx).trace :=
    shared_attempt fun held => shared_execute (Plan.ofStep s) s s held
  refine ⟨fun ctx s => ⟨?_, shared ctx s, (shared ctx s).requests_le⟩,
    fun _ _ => Step.exists_leaf_iff, fun _ _ => Step.plan_of_leaf,
    fun source h order => ⟨trace_run w source h order, ?_, ?_⟩⟩
  · cases ended : (s.attempt w ctx).value with
    | ok r => exact Or.inl ⟨r, rfl, Step.attempt_step ended⟩
    | error f => exact Or.inr (Step.attempt_eq_error_iff.mp ⟨f, ended⟩)
  · intro definition g prepared
    obtain ⟨among, level⟩ := visits_of_prepared prepared
    refine ⟨among, ?_, level⟩
    obtain ⟨some, perm, sub⟩ := among
    calc (run w source h order).trace.requests
        = ((visits w source order).map fun v => (v.step.attempt w v.context).trace.requests).sum := by
          rw [trace_run, Trace.requests_join, List.map_map]
          rfl
      _ ≤ ((visits w source order).map fun v => v.step.leaves.length).sum :=
          List.sum_le_sum fun v _ => (shared v.context v.step).requests_le
      _ = (some.map fun s => s.leaves.length).sum := by
          rw [(perm.map _).sum_eq, List.map_map]
          rfl
      _ ≤ (definition.steps.map fun s => s.leaves.length).sum :=
          (sub.map _).sum_le_sum fun _ _ => Nat.zero_le _
  · intro e refused
    rw [trace_run, visits, outcomeBy, refused]
    rfl

/-! ### A fetch below a group -/

def fetching : Step :=
  { id := "fetch"
    kind := StepKind.remote.name
    inputs := [("access_token", .text "t")]
    config := [("endpoint", .text "channels")] }

def aroundGraph : DependencyGraph := ⟨["around"], [("around", [])], [("around", 0)]⟩

theorem ofStep_around_fetching : Plan.ofStep (Group.around [] fetching) =
    .group [(fetching, .remote { endpoint := "channels" })] := by
  have inner : Plan.ofStep fetching = .remote { endpoint := "channels" } := by
    rw [Plan.ofStep]
    rfl
  rw [← inner, Plan.ofStep]
  rfl

theorem requests_of_run_around :
    prepare silent (only (alone (Group.around [] fetching))) "alone" =
        .ok (alone (Group.around [] fetching), aroundGraph) ∧
      (run silent (only (alone (Group.around [] fetching))) single ordered).trace.requests ≤ 1 ∧
      ((Group.around [] fetching).attempt silent {}).trace.requests = 1 := by
  have walked : Graph.walk ["around"] (DependencyGraph.dependenciesIn [("around", [])]) =
      .ok ["around"] := by
    simp [Graph.walk, Graph.walkFrom, DependencyGraph.dependenciesIn]
  have prepared : prepare silent (only (alone (Group.around [] fetching))) "alone" =
      .ok (alone (Group.around [] fetching), aroundGraph) :=
    prepare_eq_ok.mpr ⟨rfl, DependencyGraph.ofWorkflow_eq_ok.mpr ⟨rfl, _, walked, rfl⟩, by decide⟩
  obtain ⟨-, -, -, runs⟩ := requests_of_run silent
  obtain ⟨-, bound, -⟩ := runs (only (alone (Group.around [] fetching))) single ordered
  obtain ⟨-, few, -⟩ := bound _ _ prepared
  have leaves : ((alone (Group.around [] fetching)).steps.map fun s => s.leaves.length).sum = 1 := by
    show (Step.leaves _).length + 0 = 1
    rw [Step.leaves, ofStep_around_fetching]
    rfl
  refine ⟨prepared, leaves ▸ few, ?_⟩
  rw [Step.attempt, ofStep_around_fetching]
  rfl

end Engine

end Stepwise
