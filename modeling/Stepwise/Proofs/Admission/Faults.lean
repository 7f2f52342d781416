import Stepwise.Proofs.Admission
import Stepwise.Proofs.Execution.Nesting
import Stepwise.Proofs.Reference.Index

/-!
Admissions that fault. An admission ends with a verdict unless one of two things keeps it from one: a
configuration that JSON has no text for, or a reference with a number in its path that cannot be read.
What comes first counts: a workflow that is refused before is refused.
-/

namespace Stepwise.Admission

open Relation (TransGen)

variable {w : Workflow} {s : Step} {plan : Plan} {steps : List Step} {f : Fault}

/-! ### Checks in order -/

/-- Behind a test that refuses for a reason of its own, only the rest can fault. -/
theorem guard_eq_fault {c : Prop} [Decidable c] {e : Refusal} {rest : Unit → Except Refusal Unit}
    (known : ∀ f, e ≠ .fault f) :
    (if c then throw e >>= rest else rest ()) = .error (.fault f) ↔
      ¬c ∧ rest () = .error (.fault f) := by
  by_cases refused : c
  · rw [if_pos refused]
    refine iff_of_false ?_ (fun passed => passed.1 refused)
    intro failed
    exact known f (Except.error.inj failed)
  · rw [if_neg refused]
    exact ⟨fun failed => ⟨refused, failed⟩, fun failed => failed.2⟩

/-! ### Steps -/

/-- JSON has no text for the configuration of the step. -/
def Unwritable (s : Step) : Prop := ∃ f, Json.render .lenientPlain (.ofFields s.config) = .error f

/-- How the check of a step faults: at its configuration, or at that of a sub-step, at any depth, that
is reached before one is refused. -/
inductive Faults : Step → Plan → Prop where
  | config {s : Step} {plan : Plan} (known : ∀ kind, plan ≠ .unknown kind)
      (unwritable : Unwritable s) : Faults s plan
  | inner {s t : Step} {plan : Plan} {front back : List (Step × Plan)}
      (passed : checkSize s = .ok ()) (before : ∀ u ∈ front, checkPlan u.1 u.2 = .ok ())
      (further : Faults t plan) : Faults s (.group (front ++ (t, plan) :: back))

theorem checkPlans_eq_forM (subs : List (Step × Plan)) :
    checkPlan.checkPlans subs = subs.forM fun u => checkPlan u.1 u.2 := by
  induction subs with
  | nil => rfl
  | cons sub rest ih =>
      rw [checkPlan.checkPlans, ih]
      rfl

theorem exists_checkSize_eq_fault_iff :
    (∃ f, checkSize s = .error (.fault f)) ↔ Unwritable s := by
  rw [checkSize, Unwritable]
  cases Json.render .lenientPlain (.ofFields s.config) with
  | error e => exact iff_of_true ⟨e, rfl⟩ ⟨e, rfl⟩
  | ok text =>
      refine iff_of_false ?_ (by rintro ⟨_, ⟨⟩⟩)
      rintro ⟨f, failed⟩
      change (if _ then throw _ else pure ()) = _ at failed
      split at failed <;> cases failed

/-- What is checked of a step before its sub-steps. -/
theorem checkPlan_eq (s : Step) (plan : Plan) : checkPlan s plan = match plan with
    | .unknown kind => .error (.badKind s.id kind)
    | .misfit kind report => checkSize s >>= fun _ => .error (.badConfig s.id kind.name report)
    | .remote _ => checkSize s
    | .completion _ => checkSize s
    | .script _ => checkSize s >>= fun _ => checkNames s
    | .group subs => checkSize s >>= fun _ => subs.forM fun u => checkPlan u.1 u.2 := by
  cases plan with
  | group subs => simp only [checkPlan, checkPlans_eq_forM]
  | _ => rw [checkPlan] <;> rfl

/-- The size of a configuration is checked before anything else that depends on the kind. -/
theorem exists_checkPlan_eq_bind (known : ∀ kind, plan ≠ .unknown kind) :
    ∃ rest, checkPlan s plan = checkSize s >>= rest := by
  rw [checkPlan_eq]
  cases plan with
  | unknown kind => exact absurd rfl (known kind)
  | remote config => exact ⟨pure, (bind_pure (checkSize s)).symm⟩
  | completion config => exact ⟨pure, (bind_pure (checkSize s)).symm⟩
  | _ => exact ⟨_, rfl⟩

theorem checkNames_ne_fault : checkNames s ≠ .error (.fault f) := by
  rw [checkNames]
  split
  · rintro ⟨⟩
  · rintro ⟨⟩

/-- Beside groups, steps fault at their own configuration. -/
theorem known_of_fault (alone : ∀ subs, plan ≠ .group subs)
    (failed : checkPlan s plan = .error (.fault f)) :
    (∀ kind, plan ≠ .unknown kind) ∧ checkSize s = .error (.fault f) := by
  rw [checkPlan_eq] at failed
  cases plan with
  | unknown kind => cases failed
  | misfit kind report =>
      rcases bind_eq_error.mp failed with size | ⟨_, -, absent⟩
      · exact ⟨by rintro _ ⟨⟩, size⟩
      · cases absent
  | remote config => exact ⟨by rintro _ ⟨⟩, failed⟩
  | completion config => exact ⟨by rintro _ ⟨⟩, failed⟩
  | script config =>
      rcases bind_eq_error.mp failed with size | ⟨_, -, names⟩
      · exact ⟨by rintro _ ⟨⟩, size⟩
      · exact absurd names checkNames_ne_fault
  | group subs => exact absurd rfl (alone subs)

theorem exists_checkPlan_eq_fault_iff :
    (∃ f, checkPlan s plan = .error (.fault f)) ↔ Faults s plan := by
  constructor
  -- By induction on the plan: a group faults by itself, or at the first of its members that faults.
  · induction plan using Plan.membersInduction generalizing s with
    | single plan alone =>
        rintro ⟨f, failed⟩
        obtain ⟨known, size⟩ := known_of_fault alone failed
        exact .config known (exists_checkSize_eq_fault_iff.mp ⟨f, size⟩)
    | group subs ih =>
        rintro ⟨f, failed⟩
        rw [checkPlan_eq] at failed
        rcases bind_eq_error.mp failed with size | ⟨_, passed, members⟩
        · exact .config (by rintro _ ⟨⟩) (exists_checkSize_eq_fault_iff.mp ⟨f, size⟩)
        · obtain ⟨front, sub, back, rfl, before, here⟩ := forM_eq_error.mp members
          exact .inner passed before
            (ih sub (List.mem_append_right front List.mem_cons_self) ⟨f, here⟩)
  · intro faults
    induction faults with
    | config known unwritable =>
        obtain ⟨f, size⟩ := exists_checkSize_eq_fault_iff.mpr unwritable
        obtain ⟨rest, split⟩ := exists_checkPlan_eq_bind known
        exact ⟨f, by rw [split]; exact bind_eq_error.mpr (Or.inl size)⟩
    | inner passed before further ih =>
        obtain ⟨f, failed⟩ := ih
        refine ⟨f, ?_⟩
        rw [checkPlan_eq]
        exact bind_eq_error.mpr (Or.inr ⟨(), passed,
          forM_eq_error.mpr ⟨_, _, _, rfl, before, failed⟩⟩)

theorem checkSteps_eq_fault_iff {seen : List String} :
    checkSteps seen steps = .error (.fault f) ↔
      ∃ front s back, steps = front ++ s :: back ∧ ((front ++ [s]).map (·.id)).Nodup ∧
        (∀ t ∈ front ++ [s], t.id ∉ seen) ∧ (∀ t ∈ front, checkStep t = .ok ()) ∧
        checkStep s = .error (.fault f) := by
  induction steps generalizing seen with
  | nil =>
      refine iff_of_false (by rintro ⟨⟩) ?_
      rintro ⟨front, s, back, split, -⟩
      exact absurd split.symm (List.append_ne_nil_of_right_ne_nil front (List.cons_ne_nil s back))
  | cons s rest ih =>
      rw [checkSteps, guard_eq_fault (e := .duplicate s.id) (by rintro _ ⟨⟩), bind_eq_error, ih]
      constructor
      · rintro ⟨fresh, here | ⟨_, passed, front, t, back, rfl, distinct, unseen, before, failed⟩⟩
        · refine ⟨[], s, rest, rfl, List.nodup_singleton _, ?_, List.forall_mem_nil _, here⟩
          intro t member
          rw [List.mem_singleton.mp member]
          exact fun present => fresh (List.contains_iff_mem.mpr present)
        · refine ⟨s :: front, t, back, rfl, ?_, ?_, List.forall_mem_cons.mpr ⟨passed, before⟩, failed⟩
          · rw [List.cons_append, List.map_cons, List.nodup_cons]
            refine ⟨fun again => ?_, distinct⟩
            obtain ⟨u, member, same⟩ := List.mem_map.mp again
            exact unseen u member (same ▸ List.mem_cons_self)
          · rw [List.cons_append, List.forall_mem_cons]
            exact ⟨fun present => fresh (List.contains_iff_mem.mpr present),
              fun u member present => unseen u member (List.mem_cons_of_mem _ present)⟩
      · rintro ⟨front, t, back, split, distinct, unseen, before, failed⟩
        cases front with
        | nil =>
            cases split
            exact ⟨fun found => unseen s List.mem_cons_self (List.contains_iff_mem.mp found), Or.inl failed⟩
        | cons first others =>
            cases split
            obtain ⟨passed, later⟩ := List.forall_mem_cons.mp before
            rw [List.cons_append, List.map_cons, List.nodup_cons] at distinct
            obtain ⟨fresh, unseen⟩ := List.forall_mem_cons.mp unseen
            refine ⟨fun found => fresh (List.contains_iff_mem.mp found),
              Or.inr ⟨(), passed, others, t, back, rfl, distinct.2, ?_, later, failed⟩⟩
            intro u member present
            rcases List.mem_cons.mp present with same | earlier
            · exact distinct.1 (List.mem_map.mpr ⟨u, member, same⟩)
            · exact unseen u member earlier

/-! ### References -/

theorem exists_checkInput_eq_fault_iff {step : String} {ancestors : List String} {v : Value} :
    (∃ f, checkInput step ancestors v = .error (.fault f)) ↔ v.Misnumbered := by
  rw [← Reference.exists_allIn_eq_error_iff]
  cases read : Reference.allIn v with
  | error e =>
      rw [checkInput, read]
      exact iff_of_true ⟨e, rfl⟩ ⟨e, rfl⟩
  | ok references =>
      refine iff_of_false ?_ (by rintro ⟨_, ⟨⟩⟩)
      rintro ⟨f, failed⟩
      rw [checkInput_of_allIn read] at failed
      cases found : references.find? fun r => !isDeclared ancestors r with
      | none =>
          rw [found] at failed
          cases failed
      | some r =>
          rw [found] at failed
          cases failed

theorem checkReferences_eq_fault_iff {g : DependencyGraph} {known : List (String × List String)}
    (built : DependencyGraph.ofWorkflow w = .ok g) (distinct : w.Distinct)
    (gathered : g.ancestors = .ok known) :
    (∃ f, checkReferences known w.steps = .error (.fault f)) ↔
      ∃ front s back before input after, w.steps = front ++ s :: back ∧
        s.inputs = before ++ input :: after ∧
        (∀ t ∈ front, ∀ i ∈ t.inputs, Declares w t i.2) ∧ (∀ i ∈ before, Declares w s i.2) ∧
        input.2.Misnumbered := by
  have inputs {t : Step} (member : t ∈ w.steps) :
      (t.inputs.forM fun i =>
        checkInput t.id (DependencyGraph.dependenciesIn known t.id) i.2) = .ok () ↔
      ∀ i ∈ t.inputs, Declares w t i.2 := by
    rw [forM_eq_ok]
    exact forall₂_congr fun i _ => checkInput_eq_ok_iff built distinct gathered member
  simp only [checkReferences_eq_forM, forM_eq_error]
  constructor
  · rintro ⟨f, front, s, back, steps, passed, before, input, after, split, earlier, failed⟩
    have member : s ∈ w.steps := steps ▸ List.mem_append_right front List.mem_cons_self
    refine ⟨front, s, back, before, input, after, steps, split, ?_, ?_,
      exists_checkInput_eq_fault_iff.mp ⟨f, failed⟩⟩
    · intro t inside
      exact (inputs (steps ▸ List.mem_append_left _ inside)).mp (passed t inside)
    · intro i inside
      exact (checkInput_eq_ok_iff built distinct gathered member).mp (earlier i inside)
  · rintro ⟨front, s, back, before, input, after, steps, split, passed, earlier, wrong⟩
    have member : s ∈ w.steps := steps ▸ List.mem_append_right front List.mem_cons_self
    obtain ⟨f, failed⟩ := exists_checkInput_eq_fault_iff.mpr wrong
    refine ⟨f, front, s, back, steps, ?_, before, input, after, split, ?_, failed⟩
    · intro t inside
      exact (inputs (steps ▸ List.mem_append_left _ inside)).mpr (passed t inside)
    · intro i inside
      exact (checkInput_eq_ok_iff built distinct gathered member).mpr (earlier i inside)

/-! ### Workflows -/

/-- A step faults, when the steps before it have passed. -/
def StepFaults (w : Workflow) : Prop :=
  ∃ front s back, w.steps = front ++ s :: back ∧ ((front ++ [s]).map (·.id)).Nodup ∧
    (∀ t ∈ front, checkStep t = .ok ()) ∧ Faults s (Plan.ofStep s)

/-- A reference is misnumbered, when all steps have passed and the graph is sound, and the inputs before
it stay among what their steps depend on. -/
def ReferenceFaults (w : Workflow) : Prop :=
  w.Distinct ∧ (∀ s ∈ w.steps, checkStep s = .ok ()) ∧ (¬∃ s d, w.Dangles s d) ∧
    (¬∃ id, TransGen w.DependsOn id id) ∧
    ∃ front s back before input after, w.steps = front ++ s :: back ∧
      s.inputs = before ++ input :: after ∧
      (∀ t ∈ front, ∀ i ∈ t.inputs, Declares w t i.2) ∧ (∀ i ∈ before, Declares w s i.2) ∧
      input.2.Misnumbered

/-- An admission faults exactly if a step or a reference does, before anything is refused. -/
theorem exists_check_eq_fault_iff :
    (∃ f, check w = .error (.fault f)) ↔ w.steps ≠ [] ∧ w.steps.length ≤ Refusal.maxSteps ∧
      (StepFaults w ∨ ReferenceFaults w) := by
  have first (f : Fault) : check w = .error (.fault f) ↔
      w.steps ≠ [] ∧ w.steps.length ≤ Refusal.maxSteps ∧
        (checkSteps [] w.steps = .error (.fault f) ∨ checkSteps [] w.steps = .ok () ∧
          ∃ g, DependencyGraph.ofWorkflow w = .ok g ∧ ∃ known, g.ancestors = .ok known ∧
            checkReferences known w.steps = .error (.fault f)) := by
    rw [check, guard_eq_fault (e := .empty) (by rintro _ ⟨⟩),
      guard_eq_fault (e := .tooManySteps w.steps.length) (by rintro _ ⟨⟩), bind_eq_error,
      List.isEmpty_iff, Nat.not_lt]
    refine and_congr_right fun _ => and_congr_right fun _ => or_congr Iff.rfl ?_
    cases built : DependencyGraph.ofWorkflow w with
    | error e =>
        refine iff_of_false ?_ (by rintro ⟨_, _, ⟨⟩, _⟩)
        rintro ⟨_, -, failed⟩
        cases failed
    | ok g =>
        show (∃ a, _ ∧ (checked g.ancestors >>= fun known => checkReferences known w.steps) = _) ↔ _
        constructor
        · rintro ⟨_, passed, failed⟩
          obtain ⟨distinct, -⟩ := checkSteps_eq_ok_iff.mp passed
          obtain ⟨known, gathered, -⟩ := DependencyGraph.exists_ancestors built distinct
          rw [gathered] at failed
          exact ⟨passed, g, rfl, known, gathered, failed⟩
        · rintro ⟨passed, _, same, known, gathered, failed⟩
          cases same
          rw [gathered]
          exact ⟨(), passed, failed⟩
  simp only [first, exists_and_left]
  refine and_congr_right fun _ => and_congr_right fun _ => ?_
  rw [exists_or]
  apply or_congr
  · simp only [checkSteps_eq_fault_iff]
    constructor
    · rintro ⟨f, front, s, back, steps, distinct, -, passed, failed⟩
      exact ⟨front, s, back, steps, distinct, passed, exists_checkPlan_eq_fault_iff.mp ⟨f, failed⟩⟩
    · rintro ⟨front, s, back, steps, distinct, passed, faults⟩
      obtain ⟨f, failed⟩ := exists_checkPlan_eq_fault_iff.mpr faults
      exact ⟨f, front, s, back, steps, distinct, fun _ _ => List.not_mem_nil, passed, failed⟩
  · constructor
    · rintro ⟨f, passed, g, built, _, gathered, failed⟩
      obtain ⟨distinct, -, all⟩ := checkSteps_eq_ok_iff.mp passed
      refine ⟨distinct, all, DependencyGraph.sound_of_built built distinct, ?_,
        (checkReferences_eq_fault_iff built distinct gathered).mp ⟨f, failed⟩⟩
      rintro ⟨id, cycle⟩
      exact DependencyGraph.acyclic_of_built built distinct id cycle
    · rintro ⟨distinct, passed, known, acyclic, wrong⟩
      obtain ⟨g, built⟩ := DependencyGraph.exists_built distinct known acyclic
      obtain ⟨_, gathered, -⟩ := DependencyGraph.exists_ancestors built distinct
      obtain ⟨f, failed⟩ := (checkReferences_eq_fault_iff built distinct gathered).mpr wrong
      have all := checkSteps_eq_ok_iff.mpr ⟨distinct, fun _ _ => List.not_mem_nil, passed⟩
      exact ⟨f, all, g, built, _, gathered, failed⟩

end Stepwise.Admission
