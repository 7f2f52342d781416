import Stepwise.Execution.Failure
import Stepwise.Value.Depth
import Stepwise.Workflow.Config

/-!
Plans: a step with its configuration read, and with the plans of its sub-steps, to any depth. A plan
also says what keeps a step from being executed.
-/

namespace Stepwise

inductive Plan where
  /-- There is no kind of this name. -/
  | unknown (kind : String)
  /-- The configuration does not fit the kind. -/
  | misfit (kind : StepKind) (report : String)
  | remote (config : RemoteConfig)
  | completion (config : CompletionConfig)
  | script (config : ScriptConfig)
  | group (steps : List (Step × Plan))
  deriving Inhabited

/-- How deeply the configuration of a step is nested. -/
def Step.depth (s : Step) : Nat := (Value.ofFields s.config).depth

/-- The configuration of a step comes from one member of its entries. -/
theorem Step.config_of_ofEntries {entries : Entries} {s : Step}
    (h : Step.ofEntries entries = .ok s) :
    Schema.field entries "config" [] Schema.mapping = .ok s.config := by
  obtain ⟨g, d, hg, hd, rfl⟩ := Schema.seq_eq_ok.1 h
  obtain ⟨g', c, hg', hc, rfl⟩ := Schema.seq_eq_ok.1 hg
  obtain ⟨g₁, o, h₁, ho, rfl⟩ := Schema.seq_eq_ok.1 hg'
  obtain ⟨g₂, i, h₂, hi, rfl⟩ := Schema.seq_eq_ok.1 h₁
  obtain ⟨g₃, n, h₃, hn, rfl⟩ := Schema.seq_eq_ok.1 h₂
  obtain ⟨g₄, k, h₄, hk, rfl⟩ := Schema.seq_eq_ok.1 h₃
  obtain ⟨a, ha, rfl⟩ := Schema.map_eq_ok.1 h₄
  exact hc

/-- A step is not nested more deeply than the value that it is read from. -/
theorem Step.depth_le_of_reader {document : Bool} {v : Value} {s : Step}
    (h : Step.reader document v = .ok s) : s.depth ≤ v.depth := by
  unfold Step.reader Schema.record at h
  split at h
  · rename_i entries
    have config := Step.config_of_ofEntries h
    rcases Schema.field_eq_ok config with empty | ⟨c, found, read⟩
    · simp [Step.depth, empty, Value.ofFields, Value.depth, Value.depth.depthEntries]
    · have inside := Value.depth_lt_of_lookupText? found
      unfold Schema.mapping at read
      split at read
      · have := Schema.depth_readMembers read
        simp only [Step.depth]
        omega
      · simp [Schema.Loaded.fail] at read
  · simp [Schema.Loaded.fail] at h

/-- The sub-steps of a group are nested less deeply than its configuration. -/
theorem GroupConfig.depth_lt {entries : Entries} {c : GroupConfig}
    (h : GroupConfig.ofEntries entries = .ok c) :
    ∀ s ∈ c.steps, s.depth < (Value.dict entries).depth := by
  obtain ⟨g, u, hg, -, rfl⟩ := Schema.seq_eq_ok.1 h
  obtain ⟨c', hc', rfl⟩ := Schema.map_eq_ok.1 hg
  obtain ⟨steps, hSteps, rfl⟩ := Schema.map_eq_ok.1 hc'
  intro s hs
  rcases Schema.field_eq_ok hSteps with empty | ⟨v, found, read⟩
  · simp_all
  · have inside := Value.depth_lt_of_lookupText? found
    have items : ∃ items, v.depth = Value.depth.depthAll items + 1 ∧
        Schema.readItems (Step.reader false) 0 items = .ok steps := by
      unfold Schema.list at read
      split at read
      · exact ⟨_, rfl, read⟩
      · exact ⟨_, rfl, read⟩
      · simp [Schema.Loaded.fail] at read
    obtain ⟨items, deep, readAll⟩ := items
    obtain ⟨w, member, readOne⟩ := Schema.exists_of_readItems readAll s hs
    have below := Step.depth_le_of_reader readOne
    have bound := Value.depth_le_depthAll member
    omega

namespace StepConfig

/-- The sub-steps of a group configuration are nested less deeply than it. -/
theorem depth_lt_of_ofFields {kind : StepKind} {fields : Fields} {c : GroupConfig}
    (h : ofFields kind fields = .ok (.group c)) :
    ∀ s ∈ c.steps, s.depth < (Value.ofFields fields).depth := by
  unfold ofFields at h
  split at h
  · rename_i config read
    simp only [Except.ok.injEq] at h
    subst h
    cases kind with
    | remote =>
      obtain ⟨_, _, same⟩ := Schema.map_eq_ok.1 read
      simp at same
    | completion =>
      obtain ⟨_, _, same⟩ := Schema.map_eq_ok.1 read
      simp at same
    | script =>
      obtain ⟨_, _, same⟩ := Schema.map_eq_ok.1 read
      simp at same
    | group =>
      obtain ⟨d, hd, same⟩ := Schema.map_eq_ok.1 read
      simp only [StepConfig.group.injEq] at same
      subst same
      exact GroupConfig.depth_lt hd
  · simp at h

end StepConfig

/-- The plan of a step. -/
def Plan.ofStep (s : Step) : Plan :=
  match StepKind.ofName? s.kind with
  | none => .unknown s.kind
  | some kind =>
    match h : StepConfig.ofFields kind s.config with
    | .error report => .misfit kind report
    | .ok (.remote c) => .remote c
    | .ok (.completion c) => .completion c
    | .ok (.script c) => .script c
    | .ok (.group c) =>
      .group (c.steps.attach.map fun ⟨t, member⟩ =>
        have := StepConfig.depth_lt_of_ofFields h t member
        (t, Plan.ofStep t))
termination_by s.depth
decreasing_by simpa [Step.depth] using this

end Stepwise
