import Stepwise.Execution.Plan

/-!
The sub-steps of a step at any depth, with their plans.
-/

namespace Stepwise

/-- The sub-steps of a plan at any depth, with their plans. -/
inductive Plan.Nests : Plan → Step → Plan → Prop where
  | direct {subs : List (Step × Plan)} {sub : Step} {plan : Plan} (member : (sub, plan) ∈ subs) :
      Nests (.group subs) sub plan
  | deeper {subs : List (Step × Plan)} {sub inner : Step} {plan last : Plan}
      (member : (sub, plan) ∈ subs) (further : Nests plan inner last) :
      Nests (.group subs) inner last

namespace Plan

/-- What holds of a group if it holds of its members, and of all other plans, holds of every plan. -/
@[elab_as_elim]
theorem membersInduction {motive : Plan → Prop}
    (single : ∀ plan, (∀ subs, plan ≠ .group subs) → motive plan)
    (group : ∀ subs : List (Step × Plan), (∀ u ∈ subs, motive u.2) → motive (.group subs)) :
    ∀ plan, motive plan
  | .unknown _ => single _ fun _ same => nomatch same
  | .misfit _ _ => single _ fun _ same => nomatch same
  | .remote _ => single _ fun _ same => nomatch same
  | .completion _ => single _ fun _ same => nomatch same
  | .script _ => single _ fun _ same => nomatch same
  | .group subs => group subs (members subs)
where
  members : ∀ (subs : List (Step × Plan)), ∀ u ∈ subs, motive u.2
    | [], _, absent => nomatch absent
    | (_, plan) :: rest, u, member => by
      rcases List.mem_cons.mp member with rfl | later
      · exact membersInduction single group plan
      · exact members rest u later

variable {s t : Step} {plan : Plan} {subs : List (Step × Plan)}

/-- The sub-steps of a group are those of its configuration. -/
theorem config_of_ofStep_group (planned : ofStep s = .group subs) :
    ∃ kind config, StepConfig.ofFields kind s.config = .ok (.group config) ∧
      subs = config.steps.map fun t => (t, ofStep t) := by
  rw [ofStep] at planned
  split at planned
  · cases planned
  · rename_i kind known
    split at planned
    · cases planned
    · cases planned
    · cases planned
    · cases planned
    · rename_i config read
      cases planned
      refine ⟨kind, config, read, ?_⟩
      have each : (fun t : { t // t ∈ config.steps } => (t.val, ofStep t.val)) =
          (fun t => (t, ofStep t)) ∘ Subtype.val := rfl
      change config.steps.attach.map (fun t => (t.val, ofStep t.val)) = _
      rw [each, ← List.map_map, List.attach_map_subtype_val]

/-- What is nested in a step is planned as a step of its own. -/
theorem Nests.eq_ofStep (nested : (ofStep s).Nests t plan) : plan = ofStep t := by
  generalize whole : ofStep s = first at nested
  induction nested generalizing s with
  | direct member =>
      obtain ⟨_, config, -, rfl⟩ := config_of_ofStep_group whole
      obtain ⟨t, -, same⟩ := List.mem_map.mp member
      cases same
      rfl
  | deeper member further ih =>
      obtain ⟨_, config, -, rfl⟩ := config_of_ofStep_group whole
      obtain ⟨t, -, same⟩ := List.mem_map.mp member
      cases same
      exact ih rfl

end Plan

end Stepwise
