import Stepwise.Proofs.Admission.Faults

/-!
What an admission asks for, as a whole: every step is sound by itself, at every depth, the graph is
sound, and the references in the inputs of the steps of the workflow stay among what these depend on.
Nothing is asked of the references in the inputs of sub-steps.
-/

namespace Stepwise.Admission

open Relation (TransGen)

variable {w : Workflow} {s : Step} {plan : Plan} {steps : List Step}

/-- A step that is well configured, and not too large. -/
structure Sound (s : Step) (plan : Plan) : Prop where
  known : ∀ kind, plan ≠ .unknown kind
  fits : ∀ kind report, plan ≠ .misfit kind report
  small : ∃ text, Json.render .lenientPlain (.ofFields s.config) = .ok text ∧
    text.utf8ByteSize ≤ Refusal.maxConfigSize
  /-- A script finds its own names free. -/
  free : ∀ config, plan = .script config → ∀ name ∈ StepError.reservedNames,
    Fields.has s.inputs name = false

theorem checkSize_eq_ok_iff : checkSize s = .ok () ↔
    ∃ text, Json.render .lenientPlain (.ofFields s.config) = .ok text ∧
      text.utf8ByteSize ≤ Refusal.maxConfigSize := by
  rw [checkSize]
  cases Json.render .lenientPlain (.ofFields s.config) with
  | error f => exact iff_of_false (by rintro ⟨⟩) (by rintro ⟨_, ⟨⟩, _⟩)
  | ok text =>
      change (if _ then throw _ else pure ()) = _ ↔ _
      by_cases large : Refusal.maxConfigSize < text.utf8ByteSize
      · rw [if_pos large]
        refine iff_of_false (by rintro ⟨⟩) ?_
        rintro ⟨_, same, small⟩
        cases same
        exact Nat.not_le_of_lt large small
      · rw [if_neg large]
        exact iff_of_true rfl ⟨text, rfl, Nat.le_of_not_lt large⟩

theorem checkNames_eq_ok_iff : checkNames s = .ok () ↔
    ∀ name ∈ StepError.reservedNames, Fields.has s.inputs name = false := by
  have clear : (!(StepError.reservedNames.filter (Fields.has s.inputs)).isEmpty) = false ↔
      ∀ name ∈ StepError.reservedNames, Fields.has s.inputs name = false := by
    rw [Bool.not_eq_false', List.isEmpty_iff, List.filter_eq_nil_iff]
    simp only [Bool.not_eq_true]
  rw [← clear, checkNames]
  split
  · rename_i shadowed
    exact iff_of_false (by rintro ⟨⟩) (fun none => by rw [none] at shadowed; cases shadowed)
  · rename_i shadowed
    exact iff_of_true rfl (Bool.eq_false_iff.mpr shadowed)

theorem checkPlan_eq_ok_iff : checkPlan s plan = .ok () ↔
    Sound s plan ∧ ∀ t last, plan.Nests t last → Sound t last := by
  have leaf {plan : Plan} (alone : ∀ subs, plan ≠ .group subs) (t : Step) (last : Plan) :
      ¬plan.Nests t last := by
    intro nested
    cases nested with
    | direct member => exact alone _ rfl
    | deeper member further => exact alone _ rfl
  -- The step varies in the induction: members of a group are checked with plans of their own.
  induction plan using Plan.membersInduction generalizing s with
  | single plan alone =>
      rw [checkPlan_eq, and_iff_left fun t last nested => absurd nested (leaf alone t last)]
      cases plan with
      | unknown kind => exact iff_of_false (by rintro ⟨⟩) (fun sound => sound.known kind rfl)
      | misfit kind report =>
          refine iff_of_false ?_ (fun sound => sound.fits kind report rfl)
          intro passed
          obtain ⟨_, -, failed⟩ := bind_eq_ok.mp passed
          cases failed
      | remote config =>
          rw [checkSize_eq_ok_iff]
          exact ⟨fun small => ⟨by rintro _ ⟨⟩, by rintro _ _ ⟨⟩, small,
            by rintro _ ⟨⟩⟩, Sound.small⟩
      | completion config =>
          rw [checkSize_eq_ok_iff]
          exact ⟨fun small => ⟨by rintro _ ⟨⟩, by rintro _ _ ⟨⟩, small,
            by rintro _ ⟨⟩⟩, Sound.small⟩
      | script config =>
          simp only [bind_eq_ok, checkNames_eq_ok_iff]
          constructor
          · rintro ⟨_, small, free⟩
            exact ⟨by rintro _ ⟨⟩, by rintro _ _ ⟨⟩,
              checkSize_eq_ok_iff.mp small, fun _ _ => free⟩
          · intro sound
            exact ⟨(), checkSize_eq_ok_iff.mpr sound.small, sound.free config rfl⟩
      | group subs => exact absurd rfl (alone subs)
  | group subs ih =>
      rw [checkPlan_eq]
      simp only [bind_eq_ok, forM_eq_ok]
      constructor
      · rintro ⟨_, small, members⟩
        refine ⟨⟨by rintro _ ⟨⟩, by rintro _ _ ⟨⟩,
          checkSize_eq_ok_iff.mp small, by rintro _ ⟨⟩⟩, ?_⟩
        intro t last nested
        cases nested with
        | direct member => exact ((ih _ member).mp (members _ member)).1
        | deeper member further => exact ((ih _ member).mp (members _ member)).2 t last further
      · rintro ⟨sound, inner⟩
        refine ⟨(), checkSize_eq_ok_iff.mpr sound.small,
          fun u member => (ih u member).mpr ⟨inner _ _ (.direct member), ?_⟩⟩
        exact fun t last further => inner t last (.deeper member further)

/-- The step and its sub-steps, at every depth, are sound. -/
def Thorough (s : Step) : Prop :=
  Sound s (Plan.ofStep s) ∧ ∀ t last, (Plan.ofStep s).Nests t last → Sound t last

/-- A workflow is admitted exactly if it has some steps and not too many, of distinct ids, which are
sound at every depth and depend on each other without a gap or a cycle, and whose own inputs refer to
nothing but the inputs of the run and what the step depends on. -/
theorem check_eq_ok_iff_thorough : check w = .ok () ↔
    w.steps ≠ [] ∧ w.steps.length ≤ Refusal.maxSteps ∧ w.Distinct ∧ (∀ s ∈ w.steps, Thorough s) ∧
      (¬∃ s d, w.Dangles s d) ∧ (¬∃ id, TransGen w.DependsOn id id) ∧
      ∀ s ∈ w.steps, ∀ f ∈ s.inputs, Declares w s f.2 := by
  have each {s : Step} : checkStep s = .ok () ↔ Thorough s := checkPlan_eq_ok_iff
  constructor
  · intro admitted
    obtain ⟨some, few, passed, g, built, -⟩ := check_eq_ok_iff.mp admitted
    have distinct := distinct_of_check admitted
    exact ⟨some, few, distinct, fun s member => each.mp ((checkSteps_eq_ok_iff.mp passed).2.2 s member),
      DependencyGraph.sound_of_built built distinct,
      fun ⟨id, cycle⟩ => DependencyGraph.acyclic_of_built built distinct id cycle,
      fun s member => within_of_check admitted member⟩
  · rintro ⟨some, few, distinct, thorough, known, acyclic, within⟩
    exact (check_eq_ok_iff_within some few distinct
      (fun s member => each.mpr (thorough s member)) known acyclic).mpr within

end Stepwise.Admission
