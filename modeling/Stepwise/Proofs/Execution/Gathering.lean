import Stepwise.Proofs.Execution.Closing
import Stepwise.Proofs.Execution.Group
import Stepwise.Proofs.Execution.Nesting

/-!
What a group makes of its sub-steps. They are attempted side by side in the context of the group and end
in any order; their results are taken in the order in which the sub-steps are declared. Either all of them
count, the later ones over the earlier ones, or none does.
-/

namespace Stepwise

namespace Fields

variable {fields : Fields} {name : String} {v : Value}

theorem nodup_set (distinct : (names fields).Nodup) : (names (set fields name v)).Nodup := by
  unfold set
  split
  · have same : names (fields.map fun f => if f.1 == name then (f.1, v) else f) = names fields := by
      simp only [names, List.map_map]
      refine List.map_congr_left fun f _ => ?_
      simp only [Function.comp_apply]
      split <;> rfl
    rwa [same]
  · rename_i fresh
    rw [has_iff] at fresh
    rw [names_append, List.nodup_append]
    refine ⟨distinct, List.nodup_singleton name, ?_⟩
    rintro other listed _ last rfl
    rw [List.mem_singleton.mp last] at listed
    exact fresh listed

theorem nodup_merge (distinct : (names fields).Nodup) (others : Fields) :
    (names (merge fields others)).Nodup := by
  induction others generalizing fields with
  | nil => exact distinct
  | cons field rest ih => exact ih (nodup_set distinct)

end Fields

namespace StepResult

/-- The output of an attempt under a name; of several the last counts. -/
def output? (r : StepResult) (name : String) : Option Value := Fields.get? r.outputs.reverse name

end StepResult

namespace Group

variable {results : List StepResult} {merged : Fields} {group name : String} {v : Value}

/-! ### Results in the order of their sub-steps -/

/-- The results of sub-steps, given by their ids from some place on, once all of them are there. What
becomes of a sub-step arrives with its place. -/
def gather (arrivals : List (Nat × Outcome)) : Nat → List String → Option (List StepResult)
  | _, [] => some []
  | place, id :: rest => do
    let outcome ← arrivals.lookup place
    return ⟨id, outcome⟩ :: (← gather arrivals (place + 1) rest)

theorem gather_of_lookup {arrivals : List (Nat × Outcome)} {place : Nat}
    (arrived : ∀ i outcome, (results.map (·.outcome))[i]? = some outcome →
      arrivals.lookup (place + i) = some outcome) :
    gather arrivals place (results.map (·.step)) = some results := by
  induction results generalizing place with
  | nil => rfl
  | cons r rest ih =>
      have later : gather arrivals (place + 1) (rest.map (·.step)) = some rest := by
        refine ih fun i outcome found => ?_
        rw [Nat.add_assoc, Nat.add_comm 1 i]
        exact arrived (i + 1) outcome found
      have here : arrivals.lookup place = some r.outcome := arrived 0 r.outcome rfl
      rw [List.map_cons, gather, here, later]
      rfl

theorem lookup_of_mem {arrivals : List (Nat × Outcome)} (distinct : (arrivals.map (·.1)).Nodup)
    {place : Nat} {outcome : Outcome} (member : (place, outcome) ∈ arrivals) :
    arrivals.lookup place = some outcome := by
  induction arrivals with
  | nil => cases member
  | cons arrival rest ih =>
      obtain ⟨fresh, later⟩ := List.nodup_cons.mp distinct
      rcases List.mem_cons.mp member with rfl | among
      · exact List.lookup_cons_self
      · have apart : (place == arrival.1) = false := by
          rw [beq_eq_false_iff_ne]
          rintro rfl
          exact fresh (List.mem_map.mpr ⟨_, among, rfl⟩)
        rw [List.lookup_cons, apart]
        exact ih later among

/-- What becomes of each of several sub-steps, with its place. -/
def arrivalsOf (results : List StepResult) : List (Nat × Outcome) :=
  results.zipIdx.map fun r => (r.2, r.1.outcome)

/-- Whatever the order in which the sub-steps end, their results stand in the order of the sub-steps. -/
theorem gather_of_perm {arrivals : List (Nat × Outcome)} (perm : arrivals.Perm (arrivalsOf results)) :
    gather arrivals 0 (results.map (·.step)) = some results := by
  have places : (arrivalsOf results).map (·.1) = List.range results.length := by
    rw [arrivalsOf, List.map_map, List.range_eq_range']
    exact List.zipIdx_map_snd 0 results
  have distinct : (arrivals.map (·.1)).Nodup := by
    rw [(perm.map _).nodup_iff, places]
    exact List.nodup_range
  refine gather_of_lookup fun i outcome found => lookup_of_mem distinct ?_
  rw [perm.mem_iff, Nat.zero_add, arrivalsOf, List.mem_map]
  rw [List.getElem?_map] at found
  obtain ⟨r, atPlace, rfl⟩ := Option.map_eq_some_iff.mp found
  exact ⟨(r, i), List.mem_zipIdx_iff_getElem?.mpr atPlace, rfl⟩

/-! ### Outputs of all sub-steps -/

theorem value_merge_cons (r : StepResult) (rest : List StepResult) :
    (merge group merged (r :: rest)).value = (merge group (Fields.merge merged r.outputs) rest).value :=
  rfl

/-- Under each name stands what the last of the results has under it. -/
theorem get?_merge : Fields.get? (merge group merged results).value name =
    (results.reverse.findSome? (·.output? name)).or (Fields.get? merged name) := by
  induction results generalizing merged with
  | nil => rfl
  | cons r rest ih =>
      have last : [r].findSome? (·.output? name) = r.output? name := by
        rw [List.findSome?_cons, List.findSome?_nil]
        cases r.output? name <;> rfl
      rw [value_merge_cons, ih, Fields.get?_merge, List.reverse_cons, List.findSome?_append, last,
        Option.or_assoc]
      rfl

theorem mem_names_merge : name ∈ Fields.names (merge group merged results).value ↔
    name ∈ Fields.names merged ∨ ∃ r ∈ results, name ∈ Fields.names r.outputs := by
  induction results generalizing merged with
  | nil => exact ⟨Or.inl, fun listed => listed.elim id fun ⟨_, absent, _⟩ => nomatch absent⟩
  | cons r rest ih =>
      rw [value_merge_cons, ih, ← Fields.has_iff, Fields.has_merge, Bool.or_eq_true, Fields.has_iff,
        Fields.has_iff, List.exists_mem_cons_iff, or_comm (a := name ∈ Fields.names r.outputs), or_assoc]

theorem nodup_names_merge (distinct : (Fields.names merged).Nodup) :
    (Fields.names (merge group merged results).value).Nodup := by
  induction results generalizing merged with
  | nil => exact distinct
  | cons r rest ih => exact ih (Fields.nodup_merge distinct r.outputs)

/-! ### All or nothing -/

theorem failures_eq_nil_iff : failures results = [] ↔ ∀ r ∈ results, r.failure? = none := by
  rw [failures, List.filterMap_eq_nil_iff]
  exact forall₂_congr fun r _ => Option.map_eq_none_iff

/-- A group puts out what its sub-steps have, unless one of them has failed. -/
theorem value_conclude (group : String) (results : List StepResult) :
    (conclude group (results.map .ok)).run.value =
      if failures results = [] then .ok (merge group [] results).value
      else .error (.subSteps (failures results)) := by
  rw [conclude, StepResult.all_map_ok]
  cases failed : failures results with
  | nil =>
      rw [if_pos rfl, Asked.value_bind]
      show (if _ then _ else _ : Asked Fields).run.value = _
      rw [failed]
      rfl
  | cons first rest =>
      rw [if_neg (List.cons_ne_nil _ _), Asked.value_bind]
      show (if _ then _ else _ : Asked Fields).run.value = _
      rw [failed]
      rfl

theorem message_subSteps (failures : List (String × String)) : (StepError.subSteps failures).message =
    "Parallel step failures: " ++ ", ".intercalate (failures.map fun f => f.1 ++ ": " ++ f.2) := rfl

/-- What a group has to make of the results of its sub-steps. -/
structure Concludes (results : List StepResult) (concluded : Except StepError Fields) : Prop where
  /-- It puts something out if and only if all sub-steps have. -/
  completes : (∃ outputs, concluded = .ok outputs) ↔ ∀ r ∈ results, r.failure? = none
  /-- Its outputs have the names of all theirs, each once. -/
  names : ∀ outputs, concluded = .ok outputs → (Fields.names outputs).Nodup ∧
    ∀ name, name ∈ Fields.names outputs ↔ ∃ r ∈ results, name ∈ Fields.names r.outputs
  /-- Under each name stands what the last sub-step that has the name has put out. -/
  last : ∀ outputs, concluded = .ok outputs → ∀ before r after name v,
    results = before ++ r :: after → r.output? name = some v →
      (∀ later ∈ after, name ∉ Fields.names later.outputs) → Fields.get? outputs name = some v
  /-- Otherwise it reports the failures, and nothing else, in the order of the sub-steps. -/
  fails : (¬∀ r ∈ results, r.failure? = none) → ∃ e : StepError, concluded = .error e ∧
    e.message = "Parallel step failures: " ++ ", ".intercalate (results.filterMap fun r =>
      r.failure?.map fun message => r.step ++ ": " ++ message)

theorem concludes_conclude (group : String) (results : List StepResult) :
    Concludes results (conclude group (results.map .ok)).run.value := by
  by_cases completed : ∀ r ∈ results, r.failure? = none
  · rw [value_conclude, if_pos (failures_eq_nil_iff.mpr completed)]
    refine ⟨iff_of_true ⟨_, rfl⟩ completed, ?_, ?_, fun failed => absurd completed failed⟩
    · rintro _ ⟨⟩
      refine ⟨nodup_names_merge List.nodup_nil, fun name => ?_⟩
      rw [mem_names_merge]
      exact or_iff_right List.not_mem_nil
    · rintro _ ⟨⟩ before r after name v rfl found absent
      have none : after.reverse.findSome? (·.output? name) = none := by
        rw [List.findSome?_eq_none_iff]
        intro later member
        refine Fields.get?_of_not_mem fun listed => absent later (List.mem_reverse.mp member) ?_
        rwa [Fields.names, List.map_reverse, List.mem_reverse] at listed
      rw [get?_merge, List.reverse_append, List.reverse_cons, List.append_assoc, List.findSome?_append,
        none, Option.none_or, List.singleton_append, List.findSome?_cons, found]
      rfl
  · rw [value_conclude, if_neg fun none => completed (failures_eq_nil_iff.mp none)]
    refine ⟨iff_of_false (by rintro ⟨_, ⟨⟩⟩) completed, by rintro _ ⟨⟩, by rintro _ ⟨⟩,
      fun _ => ⟨.subSteps (failures results), rfl, ?_⟩⟩
    rw [message_subSteps, failures, List.map_filterMap]
    simp only [Option.map_map, Function.comp_def]

/-! ### Groups -/

/-- A sub-step is planned as it is declared, whatever it is handed. -/
theorem ofStep_overlaid (held : Fields) (sub : Step) : Plan.ofStep (overlaid held sub) = Plan.ofStep sub := by
  rw [Plan.ofStep.eq_def sub, Plan.ofStep]
  dsimp only [overlaid]

theorem attemptAt_of_nests {w : World} {ctx : Context} {held : Fields} {s : Step}
    {members : List (Step × Plan)} (planned : Plan.ofStep s = .group members) :
    ∀ member ∈ members, attemptAt w ctx held member = Engine.attempts w ctx (overlaid held member.1) := by
  rintro ⟨sub, plan⟩ member
  have own : plan = Plan.ofStep sub :=
    Plan.Nests.eq_ofStep (s := s) (planned ▸ Plan.Nests.direct member)
  rw [Engine.attempts, Step.attempt, ofStep_overlaid, ← own]
  rfl

/-- What is recorded of each member of a group with some outcome. -/
def resultsOf (members : List (Step × Plan)) (outcomes : List Outcome) : List StepResult :=
  members.zipWith (fun member outcome => ⟨member.1.id, outcome⟩) outcomes

theorem steps_resultsOf {members : List (Step × Plan)} {outcomes : List Outcome}
    (each : outcomes.length = members.length) :
    (resultsOf members outcomes).map (·.step) = members.map (·.1.id) := by
  induction members generalizing outcomes with
  | nil => rfl
  | cons member rest ih =>
      obtain ⟨outcome, others, rfl⟩ := List.exists_cons_of_length_eq_add_one each
      exact congrArg (member.1.id :: ·) (ih (Nat.succ.inj each))

/-- A group attempts each of its sub-steps by itself, in the context in which it is executed. Whatever
becomes of them and in whatever order they end, their results are gathered in the order in which they are
declared. The group puts something out if and only if all of them have: then its outputs are theirs, under
each name that of the last sub-step that has put out something under it. Otherwise it puts out nothing and
reports those that have failed, in their order, each with its message. -/
theorem concludes_of_group {s : Step} {members : List (Step × Plan)}
    (planned : Plan.ofStep s = .group members) (some : members ≠ []) :
    (∀ (w : World) (ctx : Context) (held : Fields), w.runsGroups = true →
      ((Plan.ofStep s).execute w ctx s held).run.value =
        (conclude s.id (members.map fun member =>
          Engine.attempts w ctx (overlaid held member.1))).run.value.map Fields.entries) ∧
    ∀ outcomes : List Outcome, outcomes.length = members.length →
      (∀ arrivals : List (Nat × Outcome), arrivals.Perm (arrivalsOf (resultsOf members outcomes)) →
        gather arrivals 0 (members.map (·.1.id)) = .some (resultsOf members outcomes)) ∧
      Concludes (resultsOf members outcomes)
        (conclude s.id ((resultsOf members outcomes).map .ok)).run.value := by
  refine ⟨fun w ctx held runs => ?_, fun outcomes each => ⟨fun arrivals perm => ?_, ?_⟩⟩
  · rw [planned, value_execute some runs, Asked.value_map,
      List.map_congr_left (attemptAt_of_nests planned)]
  · rw [← steps_resultsOf each]
    exact gather_of_perm perm
  · exact concludes_conclude _ _

/-- A group that holds the same sub-step twice. -/
def twice : Step :=
  { id := "twice"
    kind := StepKind.group.name
    config := [("steps", .list [echo.toValue, echo.toValue])] }

theorem ofStep_twice :
    Plan.ofStep twice = .group [(echo, Plan.ofStep echo), (echo, Plan.ofStep echo)] := by
  rw [Plan.ofStep]
  rfl

/-- The second ends first and counts nevertheless; if it fails nothing is put out. -/
theorem concludes_of_group_twice :
    gather [(1, .completed [("b", .int 3)]), (0, .completed [("a", .int 1), ("b", .int 2)])] 0
        ["echo", "echo"] = some [⟨"echo", .completed [("a", .int 1), ("b", .int 2)]⟩,
          ⟨"echo", .completed [("b", .int 3)]⟩] ∧
      (∃ outputs, (conclude "twice" [.ok ⟨"echo", .completed [("a", .int 1), ("b", .int 2)]⟩,
          .ok ⟨"echo", .completed [("b", .int 3)]⟩]).run.value = .ok outputs ∧
        Fields.get? outputs "a" = some (.int 1) ∧ Fields.get? outputs "b" = some (.int 3)) ∧
      ∃ e : StepError, (conclude "twice" [.ok ⟨"echo", .completed [("a", .int 1)]⟩,
          .ok ⟨"echo", .failed "late"⟩]).run.value = .error e ∧
        e.message = "Parallel step failures: echo: late" := by
  obtain ⟨-, assigned⟩ := concludes_of_group ofStep_twice (List.cons_ne_nil _ _)
  obtain ⟨ordered, concluded⟩ := assigned
    [.completed [("a", .int 1), ("b", .int 2)], .completed [("b", .int 3)]] rfl
  obtain ⟨-, failed⟩ := assigned [.completed [("a", .int 1)], .failed "late"] rfl
  refine ⟨ordered _ (.swap _ _ _), ?_, ?_⟩
  · obtain ⟨outputs, done⟩ := concluded.completes.mpr (by
      intro r member
      rcases List.mem_cons.mp member with rfl | second
      · rfl
      · rw [List.mem_singleton.mp second]
        rfl)
    refine ⟨outputs, done, ?_, ?_⟩
    · exact concluded.last outputs done [] _ [_] "a" _ rfl rfl (by decide)
    · exact concluded.last outputs done [_] _ [] "b" _ rfl rfl (List.forall_mem_nil _)
  · obtain ⟨e, ended, message⟩ := failed.fails fun all =>
      nomatch all ⟨"echo", .failed "late"⟩ (List.mem_cons_of_mem _ List.mem_cons_self)
    exact ⟨e, ended, message⟩

end Group

end Stepwise
