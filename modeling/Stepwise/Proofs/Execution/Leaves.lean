import Stepwise.Proofs.Execution.Nesting

/-!
The leaves of a step: what is nested in it and has no sub-steps itself.
-/

namespace Stepwise

def StepConfig.kind : StepConfig → StepKind
  | .remote _ => .remote
  | .completion _ => .completion
  | .script _ => .script
  | .group _ => .group

/-- The kind of the steps that a plan is for. -/
def Plan.kind? : Plan → Option StepKind
  | .unknown _ => none
  | .misfit kind _ => some kind
  | .remote _ => some .remote
  | .completion _ => some .completion
  | .script _ => some .script
  | .group _ => some .group

theorem StepConfig.kind_of_ofFields {kind : StepKind} {fields : Fields} {c : StepConfig}
    (read : ofFields kind fields = .ok c) : c.kind = kind := by
  unfold ofFields at read
  split at read
  · rename_i config loaded
    cases read
    cases kind <;>
    · obtain ⟨_, _, rfl⟩ := Schema.map_eq_ok.mp loaded
      rfl
  · cases read

theorem Plan.kind?_ofStep (s : Step) : (ofStep s).kind? = StepKind.ofName? s.kind := by
  rw [ofStep]
  split
  · rename_i unknown
    exact unknown.symm
  · rename_i kind known
    rw [known]
    split
    · rfl
    all_goals
      rename_i read
      exact congrArg some (StepConfig.kind_of_ofFields read)

/-- A step without sub-steps, at any depth below another one. -/
structure Leaf where
  /-- The sub-steps on the way down to it, which is the last of them; none if nothing is above it. -/
  way : List Step
  step : Step
  plan : Plan

namespace Leaf

/-- The leaf of a sub-step as one of its group. -/
def below (sub : Step) (leaf : Leaf) : Leaf := { leaf with way := sub :: leaf.way }

end Leaf

namespace Plan

/-- The leaves of a step with a plan. A group whose sub-steps cannot be read has none. -/
def leaves (s : Step) : Plan → List Leaf
  | .group subs => members subs
  | plan => if plan.kind? = some .group then [] else [⟨[], s, plan⟩]
where
  members : List (Step × Plan) → List Leaf
    | [] => []
    | (sub, plan) :: rest => (leaves sub plan).map (Leaf.below sub) ++ members rest

variable {s t : Step} {plan last : Plan} {subs : List (Step × Plan)} {leaf : Leaf}

theorem leaves_of_single (alone : ∀ subs, plan ≠ .group subs) :
    plan.leaves s = if plan.kind? = some .group then [] else [⟨[], s, plan⟩] := by
  cases plan with
  | group subs => exact absurd rfl (alone subs)
  | _ => rfl

theorem mem_members : leaf ∈ leaves.members subs ↔
    ∃ u ∈ subs, ∃ l ∈ u.2.leaves u.1, l.below u.1 = leaf := by
  induction subs with
  | nil => simp [leaves.members]
  | cons u rest ih =>
      simp only [leaves.members, List.mem_append, List.mem_map, ih, List.mem_cons, exists_eq_or_imp]

/-- The leaves are the step itself and what is nested in it, without the groups. -/
theorem exists_leaf_iff : (∃ l ∈ plan.leaves s, l.step = t ∧ l.plan = last) ↔
    (t = s ∧ last = plan ∨ plan.Nests t last) ∧ last.kind? ≠ some .group := by
  induction plan using membersInduction generalizing s with
  | single plan alone =>
      have bare : ¬plan.Nests t last := by
        intro nested
        cases nested with
        | direct => exact alone _ rfl
        | deeper => exact alone _ rfl
      rw [leaves_of_single alone, or_iff_left bare]
      split
      · rename_i group
        refine iff_of_false (by simp) ?_
        rintro ⟨⟨-, rfl⟩, other⟩
        exact other group
      · rename_i other
        simp only [List.mem_singleton, exists_eq_left]
        constructor
        · rintro ⟨rfl, rfl⟩
          exact ⟨⟨rfl, rfl⟩, other⟩
        · rintro ⟨⟨rfl, rfl⟩, -⟩
          exact ⟨rfl, rfl⟩
  | group subs ih =>
      rw [leaves]
      constructor
      · rintro ⟨l, inside, rfl, rfl⟩
        obtain ⟨u, member, l, below, rfl⟩ := mem_members.mp inside
        obtain ⟨place, other⟩ := (ih u member (s := u.1)).mp ⟨l, below, rfl, rfl⟩
        refine ⟨Or.inr ?_, other⟩
        rcases place with ⟨sameStep, samePlan⟩ | nested
        · have same : u = (l.step, l.plan) := Prod.ext sameStep.symm samePlan.symm
          exact .direct (same ▸ member)
        · exact .deeper member nested
      · rintro ⟨⟨rfl, rfl⟩ | nested, other⟩
        · exact absurd rfl other
        · cases nested with
          | direct member =>
              obtain ⟨l, below, same⟩ := (ih _ member).mpr ⟨Or.inl ⟨rfl, rfl⟩, other⟩
              exact ⟨_, mem_members.mpr ⟨_, member, l, below, rfl⟩, same⟩
          | deeper member further =>
              obtain ⟨l, below, same⟩ := (ih _ member).mpr ⟨Or.inr further, other⟩
              exact ⟨_, mem_members.mpr ⟨_, member, l, below, rfl⟩, same⟩

end Plan

/-- The leaves of a step: the step itself if it is no group, and else those of its sub-steps. -/
def Step.leaves (s : Step) : List Leaf := (Plan.ofStep s).leaves s

theorem Step.exists_leaf_iff {s t : Step} : (∃ leaf ∈ s.leaves, leaf.step = t) ↔
    (t = s ∨ ∃ plan, (Plan.ofStep s).Nests t plan) ∧ StepKind.ofName? t.kind ≠ some .group := by
  rw [← Plan.kind?_ofStep]
  constructor
  · rintro ⟨leaf, inside, rfl⟩
    obtain ⟨place, other⟩ := Plan.exists_leaf_iff.mp ⟨leaf, inside, rfl, rfl⟩
    rcases place with ⟨same, planned⟩ | nested
    · rw [planned, ← same] at other
      exact ⟨Or.inl same, other⟩
    · rw [nested.eq_ofStep] at other
      exact ⟨Or.inr ⟨_, nested⟩, other⟩
  · rintro ⟨place, other⟩
    have found : t = s ∧ Plan.ofStep t = Plan.ofStep s ∨ (Plan.ofStep s).Nests t (Plan.ofStep t) := by
      rcases place with rfl | ⟨plan, nested⟩
      · exact Or.inl ⟨rfl, rfl⟩
      · exact Or.inr (nested.eq_ofStep ▸ nested)
    obtain ⟨leaf, inside, same, -⟩ := Plan.exists_leaf_iff.mpr ⟨found, other⟩
    exact ⟨leaf, inside, same⟩

theorem Step.plan_of_leaf {s : Step} {leaf : Leaf} (inside : leaf ∈ s.leaves) :
    leaf.plan = Plan.ofStep leaf.step := by
  obtain ⟨⟨same, planned⟩ | nested, -⟩ := Plan.exists_leaf_iff.mp ⟨leaf, inside, rfl, rfl⟩
  · rw [planned, same]
  · exact nested.eq_ofStep

end Stepwise
