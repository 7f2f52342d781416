import Stepwise.Proofs.Admission.Sound
import Stepwise.Proofs.Execution.Group
import Stepwise.Proofs.Execution.Inputs

/-!
References below groups. An admission asks nothing of them. In a run they are resolved in the context
of the step that the sub-step belongs to: a reference to the outputs of a step that is on a lower level
finds them, and any other finds nothing.
-/

namespace Stepwise

open Relation (TransGen)

/-! ### Steps that references name -/

namespace Reference

variable {ctx : Context} {r : Reference} {v : Value} {references : List Reference} {id : String}

/-- The first segment of the path is the name of a step. -/
def Names (r : Reference) (id : String) : Prop :=
  ∃ segment rest, r.path = segment :: rest ∧ segment.name? = some id

theorem names_of_head? (first : r.head? = some id) : r.Names id := by
  obtain ⟨raw, scope, path⟩ := r
  cases path with
  | nil => cases first
  | cons segment rest =>
      cases segment with
      | key name => cases first; exact ⟨_, rest, rfl, rfl⟩
      | index n => cases first
      | each => cases first

theorem path_ne_nil_of_ofText {s : String} (read : ofText s = .ok (some r)) : r.path ≠ [] := by
  rcases ofText_cases s with ⟨-, other⟩ | ⟨scope, path, -, made⟩
  · rw [other] at read
    cases read
  · rw [made] at read
    cases parsed : Path.ofChars path with
    | error e =>
        rw [parsed] at read
        cases read
    | ok p =>
        rw [parsed] at read
        cases read
        exact Path.ofChars_ne_nil parsed

theorem path_ne_nil_of_ofPiece {piece : Template.Piece} {raw : String}
    (made : Template.Token.ofPiece piece = .ok (.placeholder raw (some r))) : r.path ≠ [] := by
  cases piece with
  | literal text => cases made
  | placeholder inside =>
      obtain ⟨found, referred, made⟩ := bind_eq_ok.mp made
      cases made
      rw [Template.referenceOf] at referred
      split at referred
      · obtain ⟨p, parsed, made⟩ := bind_eq_ok.mp referred
        cases made
        exact Path.ofChars_ne_nil parsed
      · cases referred

theorem path_ne_nil_of_tokens {s raw : String} {tokens : List Template.Token}
    (read : Template.tokens s = .ok tokens) (member : .placeholder raw (some r) ∈ tokens) :
    r.path ≠ [] := by
  unfold Template.tokens at read
  split at read
  · cases read
    cases List.mem_singleton.mp member
  · obtain ⟨piece, -, made⟩ := Checked.exists_of_mapM read _ member
    exact path_ne_nil_of_ofPiece made

/-- Every reference in a value has a first segment. -/
theorem path_ne_nil (read : allIn v = .ok references) (inside : r ∈ references) : r.path ≠ [] := by
  obtain ⟨whole, found, read⟩ := bind_eq_ok.mp read
  rw [ofValue] at found
  cases text : v.textOf? with
  | none =>
      rw [text] at found
      cases found
      simp only [text] at read
      cases read
      cases inside
  | some s =>
      rw [text] at found
      cases whole with
      | some only =>
          cases read
          rw [List.mem_singleton.mp inside]
          exact path_ne_nil_of_ofText found
      | none =>
          simp only [text] at read
          obtain ⟨tokens, split, read⟩ := bind_eq_ok.mp read
          cases read
          obtain ⟨token, member, kept⟩ := List.mem_filterMap.mp inside
          cases token with
          | literal text => cases kept
          | placeholder raw reference =>
              cases kept
              exact path_ne_nil_of_tokens split member

/-- A reference to the outputs of a named step looks the rest of its path up in them. -/
theorem resolve_of_names (scope : r.scope = .steps) (names : r.Names id) :
    r.resolve ctx = ((Fields.get? ctx.results id).getD .null).lookup r.path.tail := by
  obtain ⟨segment, rest, path, named⟩ := names
  rw [resolve, scope, path]
  exact Value.lookup_of_name named

/-- Where none of the outputs is of a step that it names, a reference finds nothing. -/
theorem resolve_eq_null (scope : r.scope = .steps) (some : r.path ≠ [])
    (unseen : ∀ id, r.Names id → Fields.get? ctx.results id = none) : r.resolve ctx = .null := by
  by_contra found
  obtain ⟨segment, rest, path⟩ := List.exists_cons_of_ne_nil some
  rw [resolve, scope, path] at found
  obtain ⟨name, v, named, present⟩ := Value.exists_name_of_lookup rfl found
  rw [unseen name ⟨segment, rest, path, named⟩] at present
  cases present

end Reference

/-! ### Runs -/

namespace Levels

/-- Whether it passes all levels or stops in one, a run goes up the levels. -/
theorem orderly_run {w : Workflow} {g : DependencyGraph} {attempt : Attempts} {start : Context}
    (built : DependencyGraph.ofWorkflow w = .ok g) (distinct : w.Distinct) (named : Named attempt)
    (empty : start.results = []) :
    Orderly g w start attempt (run (noting attempt) start (g.stepsByLevel w)).visits := by
  rcases run_noting attempt start (g.stepsByLevel w) with
    ⟨visits, final, passes, ran⟩ | ⟨pre, steps, post, before, ctx, ending, levels, passes, -, ran⟩
  · rw [ran]
    exact passes.goes.orderly built distinct named empty
  · rw [ran]
    obtain ⟨k, -, rfl, rfl, -⟩ := range_map_eq_append levels
    have goes := passes.goes_snoc (g.stepsAt w k)
    have begun : (List.range k).map (g.stepsAt w) ++ [g.stepsAt w k] =
        (List.range (k + 1)).map (g.stepsAt w) := by
      rw [List.range_succ, List.map_append, List.map_singleton]
    rw [begun] at goes
    exact goes.orderly built distinct named empty

/-- The attempts of the lowest level are made whatever they come to. -/
theorem mem_visits_of_lowest {attempt : Attempts} {ctx : Context} {steps : List Step}
    {rest : List (List Step)} {s : Step} (member : s ∈ steps) :
    ⟨ctx, s⟩ ∈ (run (noting attempt) ctx (steps :: rest)).visits := by
  have made : (⟨ctx, s⟩ : Visit) ∈ steps.map (Visit.mk ctx) := List.mem_map.mpr ⟨s, member, rfl⟩
  cases done : StepResult.all (steps.map (attempt ctx)) with
  | error f =>
      rw [run_noting_cons_of_stops (.fault done)]
      exact made
  | ok results =>
      cases first : firstFailure? results with
      | some failure =>
          rw [run_noting_cons_of_stops (.failure done first)]
          exact made
      | none =>
          rw [run_noting_cons_of_clean done first]
          exact List.mem_append_left _ made

end Levels

namespace Engine

open Stepwise.Group (Hands)
open Levels (Orderly)

variable {w : World} {source : Source} {order : Order} {definition : Workflow} {g : DependencyGraph}

/-- The attempts of a run go up the levels of its workflow, however the run ends. -/
theorem exists_orderly_visits (stored : source order.workflow = .ok (some definition))
    (built : DependencyGraph.ofWorkflow definition = .ok g) (distinct : definition.Distinct) :
    ∃ start : Context, Orderly g definition start (attempts w) (visits w source order) := by
  have none (start : Context) : Orderly g definition start (attempts w) [] :=
    ⟨List.forall_mem_nil _, List.nodup_nil, .nil, List.forall_mem_nil _, List.forall_mem_nil _⟩
  cases prepared : prepare w source order.workflow with
  | error e =>
      rw [visits]
      simp only [outcomeBy, prepared, pure]
      exact ⟨{}, none _⟩
  | ok pair =>
      obtain ⟨found, graph⟩ := pair
      obtain ⟨same, again, -⟩ := prepare_eq_ok.mp prepared
      rw [stored] at same
      cases same
      rw [built] at again
      cases again
      cases given : inputsOf order.inputs with
      | error f =>
          rw [visits]
          simp only [outcomeBy, prepared, given, pure]
          exact ⟨{}, none _⟩
      | ok inputs =>
          rw [visits, outcomeBy_noting (attempts w) prepared given]
          exact ⟨_, Levels.orderly_run built distinct (named_attempts w) rfl⟩

/-- An admission asks of sub-steps only that they are sound, and nothing of their references. These are
resolved in the context of the attempt at the step that the sub-step belongs to: one to a step of a lower
level finds what this step has put out, and one to any other step finds nothing. All that a step depends
on is on lower levels. -/
theorem nested_references (definition : Workflow) :
    (Admission.check definition = .ok () ↔ definition.steps ≠ [] ∧
      definition.steps.length ≤ Refusal.maxSteps ∧ definition.Distinct ∧
      (∀ s ∈ definition.steps, Admission.Thorough s) ∧ (¬∃ s d, definition.Dangles s d) ∧
      (¬∃ id, TransGen definition.DependsOn id id) ∧
      ∀ s ∈ definition.steps, ∀ f ∈ s.inputs, Admission.Declares definition s f.2) ∧
    (Admission.check definition = .ok () →
      ∃ g, DependencyGraph.ofWorkflow definition = .ok g ∧
      ∀ (w : World) (source : Source) (order : Order), source order.workflow = .ok (some definition) →
      ∀ v ∈ visits w source order, ∀ (t : Step) (plan : Plan), (Plan.ofStep v.step).Nests t plan →
        (∀ held above received,
          Hands w v.context held (Plan.ofStep v.step) (above ++ [t]) received →
          ∀ name value, t.input? name = some value →
            ∃ x, value.resolve v.context = .ok x ∧ Fields.get? received name = some x) ∧
        ∀ f ∈ t.inputs, ∀ references, Reference.allIn f.2 = .ok references →
        ∀ r ∈ references, r.scope = .steps →
          (∀ u ∈ definition.steps, r.Names u.id → g.rank u < g.rank v.step →
            ∃ e ∈ visits w source order, e.step = u ∧ e.Completes (attempts w) ∧
              r.resolve v.context = (e.entry (attempts w)).2.lookup r.path.tail) ∧
          ((∀ u ∈ definition.steps, r.Names u.id → g.rank v.step ≤ g.rank u) →
            r.resolve v.context = .null) ∧
          (r.Within (TransGen definition.DependsOn v.step.id) →
            ∃ u ∈ definition.steps, r.Names u.id ∧ g.rank u < g.rank v.step)) := by
  refine ⟨Admission.check_eq_ok_iff_thorough, ?_⟩
  intro admitted
  obtain ⟨-, -, -, g, built, -⟩ := Admission.check_eq_ok_iff.mp admitted
  have distinct := Admission.distinct_of_check admitted
  refine ⟨g, built, ?_⟩
  intro w source order stored v inside t plan nested
  obtain ⟨start, orderly⟩ := exists_orderly_visits (w := w) stored built distinct
  refine ⟨fun held above received hands name value own => Group.get?_of_hands_own hands own, ?_⟩
  intro f input references read r member scope
  refine ⟨?_, ?_, ?_⟩
  · intro u declared names lower
    obtain ⟨e, earlier, rfl, completes⟩ := orderly.below v inside u declared lower
    refine ⟨e, earlier, rfl, completes, ?_⟩
    rw [Reference.resolve_of_names scope names, orderly.get?_context earlier inside lower,
      Option.getD_some]
  · intro unseen
    apply Reference.resolve_eq_null scope (Reference.path_ne_nil read member)
    intro id names
    by_cases known : ∃ u ∈ definition.steps, u.id = id
    · obtain ⟨u, declared, rfl⟩ := known
      exact orderly.get?_context_eq_none distinct inside declared (unseen u declared names)
    · apply Fields.get?_of_not_mem
      rw [orderly.names_context inside]
      intro listed
      obtain ⟨e, lower, same⟩ := List.mem_map.mp listed
      exact known ⟨e.step, orderly.member e (List.mem_filter.mp lower).1, same⟩
  · rintro (given | ⟨head, first, path⟩)
    · rw [scope] at given
      cases given
    · obtain ⟨u, declared, rfl, lower⟩ := DependencyGraph.rank_lt_of_transGen built distinct path
      exact ⟨u, declared, Reference.names_of_head? first, lower⟩

/-! ### A sub-step that refers to a step beside its group -/

/-- A script step that puts out a number. -/
def first : Step :=
  { id := "a"
    kind := StepKind.script.name
    config := [("script", .text "\x7b'x': 1\x7d")] }

/-- A sub-step that asks for this number. -/
def asking : Step := { Group.echo with inputs := [("v", .text "$steps.a.x")] }

/-- The reference of the sub-step. -/
def asked : Reference := ⟨"$steps.a.x", .steps, [.key "a", .key "x"]⟩

/-- A step, and a group that does not depend on it. -/
def beside : Workflow := { id := "alone", name := "Beside", steps := [first, Group.around [] asking] }

def besideGraph : DependencyGraph :=
  ⟨["a", "around"], [("a", []), ("around", [])], [("a", 0), ("around", 0)]⟩

theorem ofWorkflow_beside : DependencyGraph.ofWorkflow beside = .ok besideGraph := by
  have walked : Graph.walk ["a", "around"] (DependencyGraph.dependenciesIn besideGraph.edges) =
      .ok ["a", "around"] := by
    simp [Graph.walk, Graph.walkFrom, besideGraph, DependencyGraph.dependenciesIn]
  exact DependencyGraph.ofWorkflow_eq_ok.mpr ⟨rfl, _, walked, rfl⟩

theorem ofStep_around_asking :
    Plan.ofStep (Group.around [] asking) = .group [(asking, Plan.ofStep asking)] := by
  rw [Plan.ofStep]
  rfl

theorem nests_asking : (Plan.ofStep (Group.around [] asking)).Nests asking (Plan.ofStep asking) := by
  rw [ofStep_around_asking]
  exact .direct List.mem_cons_self

theorem ancestors_beside : besideGraph.ancestors = .ok [("a", []), ("around", [])] := by
  rw [DependencyGraph.ancestors, DependencyGraph.byLevel_of_rising rfl (by decide) (by decide)]
  rfl

theorem check_beside : Admission.check beside = .ok () := by
  have single : Plan.ofStep first = .script { script := "\x7b'x': 1\x7d" } := by
    rw [Plan.ofStep]
    rfl
  have inner : Plan.ofStep asking = .script { script := "\x7b'out': v\x7d" } := by
    rw [Plan.ofStep]
    rfl
  have passed : ∀ s ∈ beside.steps, Admission.checkStep s = .ok () := by
    intro s member
    rcases List.mem_cons.mp member with rfl | last
    · rw [Admission.checkStep, single]
      decide +kernel
    · rw [List.mem_singleton.mp last, Admission.checkStep, ofStep_around_asking, inner]
      decide +kernel
  refine Admission.check_eq_ok_iff.mpr ⟨List.cons_ne_nil _ _, Nat.le_of_ble_eq_true rfl,
    Admission.checkSteps_eq_ok_iff.mpr ⟨by decide, fun _ _ => List.not_mem_nil, passed⟩, besideGraph,
    ofWorkflow_beside, _, ancestors_beside, by decide +kernel⟩

theorem allIn_asked : Reference.allIn (.text "$steps.a.x") = .ok [asked] := by decide +kernel

/-- The workflow is admitted, and the reference of the sub-step is to a step that the group does not
depend on. -/
theorem beside_admitted : Admission.check beside = .ok () ∧
    ∃ s ∈ beside.steps, ∃ t plan, (Plan.ofStep s).Nests t plan ∧ ∃ f ∈ t.inputs,
      Reference.allIn f.2 = .ok [asked] ∧ ¬asked.Within (TransGen beside.DependsOn s.id) := by
  refine ⟨check_beside, _, List.mem_cons_of_mem _ List.mem_cons_self, asking, _, nests_asking, _,
    List.mem_cons_self, allIn_asked, ?_⟩
  rintro (wrong | ⟨head, -, path⟩)
  · cases wrong
  · obtain ⟨_, ⟨s, member, -, listed⟩, -⟩ := Relation.TransGen.head'_iff.mp path
    rcases List.mem_cons.mp member with rfl | last
    · cases listed
    · rw [List.mem_singleton.mp last] at listed
      cases listed

/-- In a run the reference finds nothing, though the step that it names has put out the number. -/
theorem nested_references_beside : ∃ v ∈ visits silent (only beside) ordered,
    v.step.id = "around" ∧ asked.resolve v.context = .null := by
  obtain ⟨g, built, runs⟩ := (nested_references beside).2 check_beside
  rw [ofWorkflow_beside] at built
  cases built
  have prepared : prepare silent (only beside) ordered.workflow = .ok (beside, besideGraph) :=
    prepare_eq_ok.mpr ⟨rfl, ofWorkflow_beside, by decide⟩
  have attempted : ⟨{ run := "run" }, Group.around [] asking⟩ ∈ visits silent (only beside) ordered := by
    rw [visits, outcomeBy_noting (attempts silent) prepared rfl]
    have second : Group.around [] asking ∈ beside.steps := List.mem_cons_of_mem _ List.mem_cons_self
    exact Levels.mem_visits_of_lowest second
  refine ⟨_, attempted, rfl, ?_⟩
  obtain ⟨-, resolved⟩ := runs silent (only beside) ordered rfl _ attempted asking _ nests_asking
  exact (resolved _ List.mem_cons_self _ allIn_asked asked List.mem_cons_self rfl).2.1
    fun u _ _ => Nat.zero_le _

end Engine

end Stepwise
