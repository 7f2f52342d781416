import Stepwise.Admission
import Stepwise.Proofs.Reference.Resolution
import Stepwise.Proofs.Workflow.Ancestors

/-!
What is known of a workflow that has been admitted: its graph can be built, and every reference in the
inputs of a step is to the inputs of the run or to a step that it depends on.
-/

namespace Stepwise.Admission

open Relation (TransGen)

variable {w : Workflow} {steps : List Step}

/-! ### What the checks ask for -/

/-- Behind a test that did not refuse, a check goes on. -/
theorem passed_of_guard {c : Prop} [Decidable c] {e : Refusal} {rest : Unit → Except Refusal Unit}
    (passed : (if c then throw e >>= rest else rest ()) = .ok ()) : ¬c ∧ rest () = .ok () := by
  by_cases refused : c
  · rw [if_pos refused] at passed
    cases passed
  · rw [if_neg refused] at passed
    exact ⟨refused, passed⟩

theorem checkSteps_eq_ok_iff {seen : List String} : checkSteps seen steps = .ok () ↔
    (steps.map (·.id)).Nodup ∧ (∀ s ∈ steps, s.id ∉ seen) ∧ ∀ s ∈ steps, checkStep s = .ok () := by
  induction steps generalizing seen with
  | nil => exact iff_of_true rfl ⟨List.nodup_nil, List.forall_mem_nil _, List.forall_mem_nil _⟩
  | cons s rest ih =>
      rw [List.map_cons, List.nodup_cons, List.forall_mem_cons, List.forall_mem_cons, checkSteps]
      constructor
      · intro passed
        obtain ⟨fresh, passed⟩ := passed_of_guard passed
        obtain ⟨_, here, later⟩ := bind_eq_ok.mp passed
        obtain ⟨distinct, unseen, others⟩ := ih.mp later
        refine ⟨⟨?_, distinct⟩, ⟨fun present => fresh (List.contains_iff_mem.mpr present), ?_⟩, here, others⟩
        · intro again
          obtain ⟨t, member, same⟩ := List.mem_map.mp again
          exact unseen t member (same ▸ List.mem_cons_self)
        · exact fun t member present => unseen t member (List.mem_cons_of_mem _ present)
      · rintro ⟨⟨fresh, distinct⟩, ⟨new, unseen⟩, here, others⟩
        rw [if_neg fun found => new (List.contains_iff_mem.mp found)]
        refine bind_eq_ok.mpr ⟨(), here, ih.mpr ⟨distinct, ?_, others⟩⟩
        intro t member present
        rcases List.mem_cons.mp present with same | earlier
        · exact fresh (List.mem_map.mpr ⟨t, member, same⟩)
        · exact unseen t member earlier

theorem isDeclared_iff {ancestors : List String} {r : Reference} :
    isDeclared ancestors r = true ↔ r.Within (· ∈ ancestors) := by
  obtain ⟨raw, scope, path⟩ := r
  cases scope with
  | input => exact iff_of_true rfl (Or.inl rfl)
  | steps =>
      cases first : Reference.head? ⟨raw, .steps, path⟩ with
      | none =>
          refine iff_of_false (by rw [isDeclared, first]; exact Bool.false_ne_true) ?_
          rintro (wrong | ⟨head, found, -⟩)
          · cases wrong
          · rw [first] at found
            cases found
      | some head =>
          rw [isDeclared, first, List.contains_iff_mem]
          constructor
          · exact fun listed => Or.inr ⟨head, first, listed⟩
          · rintro (wrong | ⟨other, found, listed⟩)
            · cases wrong
            · rw [first] at found
              cases found
              exact listed

/-- Where its references can be read, an input is refused for the first that is not declared. -/
theorem checkInput_of_allIn {step : String} {ancestors : List String} {v : Value}
    {references : List Reference} (read : Reference.allIn v = .ok references) :
    checkInput step ancestors v = (references.find? fun r => !isDeclared ancestors r).elim (.ok ())
      fun r => .error (.undeclared step r.raw r.head?) := by
  rw [checkInput, read]
  dsimp only [checked, Except.mapError, bind, Except.bind]
  cases references.find? fun r => !isDeclared ancestors r <;> rfl

theorem checkInput_eq_ok {step : String} {ancestors : List String} {v : Value} :
    checkInput step ancestors v = .ok () ↔
      ∃ references, Reference.allIn v = .ok references ∧ ∀ r ∈ references, r.Within (· ∈ ancestors) := by
  cases read : Reference.allIn v with
  | error e =>
      rw [checkInput, read]
      exact iff_of_false (by rintro ⟨⟩) (by rintro ⟨_, ⟨⟩, _⟩)
  | ok references =>
      have declared : (references.find? fun r => !isDeclared ancestors r) = none ↔
          ∀ r ∈ references, r.Within (· ∈ ancestors) := by
        simp only [List.find?_eq_none, Bool.not_eq_true, Bool.not_eq_false', isDeclared_iff]
      rw [checkInput_of_allIn read]
      cases found : references.find? fun r => !isDeclared ancestors r with
      | none => exact iff_of_true rfl ⟨references, rfl, declared.mp found⟩
      | some r =>
          refine iff_of_false (by rintro ⟨⟩) ?_
          rintro ⟨_, same, within⟩
          cases same
          rw [declared.mpr within] at found
          cases found

theorem forM_eq_ok {α : Type} {items : List α} {check : α → Except Refusal Unit} :
    items.forM check = .ok () ↔ ∀ a ∈ items, check a = .ok () := by
  induction items with
  | nil => exact iff_of_true rfl (List.forall_mem_nil _)
  | cons a rest ih =>
      change (check a >>= fun _ => rest.forM check) = _ ↔ _
      rw [bind_eq_ok, ih, List.forall_mem_cons]
      exact ⟨fun ⟨_, passed, later⟩ => ⟨passed, later⟩, fun ⟨passed, later⟩ => ⟨(), passed, later⟩⟩

/-- Of checks that are made in order one fails exactly if those before it pass. -/
theorem forM_eq_error {α : Type} {items : List α} {check : α → Except Refusal Unit} {e : Refusal} :
    items.forM check = .error e ↔ ∃ front a back, items = front ++ a :: back ∧
      (∀ b ∈ front, check b = .ok ()) ∧ check a = .error e := by
  induction items with
  | nil =>
      refine iff_of_false (by rintro ⟨⟩) ?_
      rintro ⟨front, a, back, split, -⟩
      exact absurd split.symm (List.append_ne_nil_of_right_ne_nil front (List.cons_ne_nil a back))
  | cons a rest ih =>
      change (check a >>= fun _ => rest.forM check) = _ ↔ _
      rw [bind_eq_error, ih]
      constructor
      · rintro (here | ⟨_, passed, front, b, back, rfl, before, failed⟩)
        · exact ⟨[], a, rest, rfl, List.forall_mem_nil _, here⟩
        · exact ⟨a :: front, b, back, rfl, List.forall_mem_cons.mpr ⟨passed, before⟩, failed⟩
      · rintro ⟨front, b, back, split, before, failed⟩
        cases front with
        | nil =>
            cases split
            exact Or.inl failed
        | cons first others =>
            cases split
            obtain ⟨passed, later⟩ := List.forall_mem_cons.mp before
            exact Or.inr ⟨(), passed, others, b, back, rfl, later, failed⟩

theorem checkReferences_eq_forM (ancestors : List (String × List String)) (steps : List Step) :
    checkReferences ancestors steps = steps.forM fun s =>
      s.inputs.forM fun f =>
        checkInput s.id (DependencyGraph.dependenciesIn ancestors s.id) f.2 := by
  induction steps with
  | nil => rfl
  | cons s rest ih =>
      rw [checkReferences, ih]
      rfl

/-- The references in an input of a step can be read, and are to the inputs of the run or to what the
step depends on. -/
def Declares (w : Workflow) (s : Step) (v : Value) : Prop :=
  ∃ references, Reference.allIn v = .ok references ∧
    ∀ r ∈ references, r.Within (TransGen w.DependsOn s.id)

section Gathered

variable {g : DependencyGraph} {known : List (String × List String)}
  (built : DependencyGraph.ofWorkflow w = .ok g) (distinct : w.Distinct)
  (gathered : g.ancestors = .ok known)
include built distinct gathered

theorem checkInput_eq_ok_iff {s : Step} (member : s ∈ w.steps) {v : Value} :
    checkInput s.id (DependencyGraph.dependenciesIn known s.id) v = .ok () ↔ Declares w s v := by
  have listed : (· ∈ DependencyGraph.dependenciesIn known s.id) = TransGen w.DependsOn s.id :=
    funext fun d => propext (DependencyGraph.mem_ancestors built distinct gathered member)
  rw [checkInput_eq_ok, listed, Declares]

theorem checkReferences_eq_ok_iff : checkReferences known w.steps = .ok () ↔
    ∀ s ∈ w.steps, ∀ f ∈ s.inputs, Declares w s f.2 := by
  rw [checkReferences_eq_forM, forM_eq_ok]
  refine forall₂_congr fun s member => ?_
  rw [forM_eq_ok]
  exact forall₂_congr fun f _ => checkInput_eq_ok_iff built distinct gathered member

end Gathered

/-! ### Admitted workflows -/

/-- Behind the other checks a workflow is as good as its references. -/
theorem check_of_built {g : DependencyGraph} {known : List (String × List String)}
    (some : w.steps ≠ []) (few : w.steps.length ≤ Refusal.maxSteps)
    (passed : checkSteps [] w.steps = .ok ()) (built : DependencyGraph.ofWorkflow w = .ok g)
    (gathered : g.ancestors = .ok known) : check w = checkReferences known w.steps := by
  rw [check, if_neg (fun none => some (List.isEmpty_iff.mp none)), if_neg (Nat.not_lt.mpr few),
    passed, built]
  show (checked g.ancestors >>= fun known => checkReferences known w.steps) = _
  rw [gathered]
  rfl

theorem check_eq_ok_iff : check w = .ok () ↔
    w.steps ≠ [] ∧ w.steps.length ≤ Refusal.maxSteps ∧ checkSteps [] w.steps = .ok () ∧
      ∃ g, DependencyGraph.ofWorkflow w = .ok g ∧ ∃ known, g.ancestors = .ok known ∧
        checkReferences known w.steps = .ok () := by
  constructor
  · intro admitted
    rw [check] at admitted
    obtain ⟨some, admitted⟩ := passed_of_guard admitted
    obtain ⟨few, admitted⟩ := passed_of_guard admitted
    obtain ⟨_, steps, references⟩ := bind_eq_ok.mp admitted
    refine ⟨fun none => some (List.isEmpty_iff.mpr none), Nat.le_of_not_lt few, steps, ?_⟩
    cases built : DependencyGraph.ofWorkflow w with
    | error e =>
        rw [built] at references
        cases references
    | ok g =>
        rw [built] at references
        obtain ⟨known, found, references⟩ := bind_eq_ok.mp references
        cases gathered : g.ancestors with
        | error f =>
            rw [gathered] at found
            cases found
        | ok all =>
            rw [gathered] at found
            cases found
            exact ⟨g, rfl, known, gathered, references⟩
  · rintro ⟨some, few, steps, g, built, known, gathered, references⟩
    rw [check_of_built some few steps built gathered]
    exact references

section Admitted

variable (admitted : check w = .ok ())
include admitted

theorem distinct_of_check : w.Distinct := by
  obtain ⟨-, -, passed, -⟩ := check_eq_ok_iff.mp admitted
  exact (checkSteps_eq_ok_iff.mp passed).1

/-- The references of a step are to the inputs of the run and to what the step depends on. -/
theorem within_of_check {s : Step} (member : s ∈ w.steps) : ∀ f ∈ s.inputs, Declares w s f.2 := by
  obtain ⟨-, -, -, g, built, known, gathered, passed⟩ := check_eq_ok_iff.mp admitted
  exact (checkReferences_eq_ok_iff built (distinct_of_check admitted) gathered).mp passed s member

/-- Contexts that agree on what a step depends on give it the same inputs. -/
theorem resolve_congr_of_check {s : Step} (member : s ∈ w.steps) {c d : Context}
    (agree : c.Agree (TransGen w.DependsOn s.id) d) :
    Fields.resolve c s.inputs = Fields.resolve d s.inputs :=
  Fields.resolve_congr agree (within_of_check admitted member)

/-- A step of an admitted workflow has no inputs only where a placeholder has no text. -/
theorem exists_resolve_eq_error_iff_of_check {s : Step} (member : s ∈ w.steps) (ctx : Context) :
    (∃ e, Fields.resolve ctx s.inputs = .error e) ↔
      ∃ f ∈ s.inputs, ∃ r, f.2.HasPlaceholder r ∧ ∃ e, (r.resolve ctx).inText = .error e := by
  apply Fields.exists_resolve_eq_error_iff
  intro f input
  obtain ⟨references, read, -⟩ := within_of_check admitted member f input
  exact ⟨references, read⟩

end Admitted

/-- Where nothing else is wrong a workflow is admitted exactly if its references stay among what their
steps depend on. -/
theorem check_eq_ok_iff_within (some : w.steps ≠ []) (few : w.steps.length ≤ Refusal.maxSteps)
    (distinct : w.Distinct) (passed : ∀ s ∈ w.steps, checkStep s = .ok ())
    (known : ¬∃ s d, w.Dangles s d) (acyclic : ¬∃ id, TransGen w.DependsOn id id) :
    check w = .ok () ↔ ∀ s ∈ w.steps, ∀ f ∈ s.inputs, Declares w s f.2 := by
  constructor
  · exact fun admitted s member => within_of_check admitted member
  · intro within
    obtain ⟨g, built⟩ := DependencyGraph.exists_built distinct known acyclic
    obtain ⟨_, gathered, -⟩ := DependencyGraph.exists_ancestors built distinct
    exact check_eq_ok_iff.mpr ⟨some, few,
      checkSteps_eq_ok_iff.mpr ⟨distinct, fun _ _ => List.not_mem_nil, passed⟩, g, built, _, gathered,
      (checkReferences_eq_ok_iff built distinct gathered).mpr within⟩

end Stepwise.Admission
