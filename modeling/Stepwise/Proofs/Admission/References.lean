import Stepwise.Proofs.Admission

/-!
What the check of references refuses. The references of a workflow stand in an order: that of its
steps, of the inputs of each step, and of the text of each input. A workflow that passes all other checks
is refused for the first of them that strays from what its step depends on.
-/

namespace Stepwise

/-! ### Mentions -/

/-- The value refers: it is a reference as a whole, or a template with a placeholder for one. -/
inductive Value.Mentions (v : Value) (r : Reference) : Prop where
  | whole (read : Reference.ofValue v = .ok (some r)) : v.Mentions r
  | placeholder {s raw : String} {tokens : List Template.Token}
      (other : Reference.ofValue v = .ok none) (text : v.textOf? = some s)
      (read : Template.tokens s = .ok tokens) (inside : .placeholder raw (some r) ∈ tokens) :
      v.Mentions r

theorem Reference.mem_allIn_iff {v : Value} {references : List Reference}
    (read : allIn v = .ok references) {r : Reference} : r ∈ references ↔ v.Mentions r := by
  rw [allIn] at read
  obtain ⟨found, whole, read⟩ := bind_eq_ok.mp read
  cases found with
  | some reference =>
      cases read
      rw [List.mem_singleton]
      constructor
      · rintro rfl
        exact .whole whole
      · rintro (⟨same⟩ | ⟨other, -⟩)
        · rw [whole] at same
          cases same
          rfl
        · rw [whole] at other
          cases other
  | none =>
      have partly : v.Mentions r ↔ ∃ s tokens raw, v.textOf? = some s ∧ Template.tokens s = .ok tokens ∧
          Template.Token.placeholder raw (some r) ∈ tokens := by
        constructor
        · rintro (⟨same⟩ | ⟨-, text, split, inside⟩)
          · rw [whole] at same
            cases same
          · exact ⟨_, _, _, text, split, inside⟩
        · rintro ⟨s, tokens, raw, text, split, inside⟩
          exact .placeholder whole text split inside
      rw [partly]
      cases text : v.textOf? with
      | none =>
          simp only [text] at read
          cases read
          exact iff_of_false List.not_mem_nil (by rintro ⟨_, _, _, ⟨⟩, _⟩)
      | some s =>
          simp only [text] at read
          obtain ⟨tokens, split, read⟩ := bind_eq_ok.mp read
          cases read
          rw [List.mem_filterMap]
          constructor
          · rintro ⟨token, inside, found⟩
            cases token with
            | literal text => cases found
            | placeholder raw reference =>
                cases found
                exact ⟨s, tokens, raw, rfl, split, inside⟩
          · rintro ⟨_, _, raw, same, again, inside⟩
            cases same
            rw [split] at again
            cases again
            exact ⟨_, inside, rfl⟩

/-- The references in the inputs of a step, in the order of the inputs and of their texts; an input that
cannot be read has none. -/
def Step.mentions (s : Step) : List Reference :=
  s.inputs.flatMap fun f => (Reference.allIn f.2).toOption.getD []

/-- The references in a workflow, each with its step, in the order of the steps. -/
def Workflow.mentions (w : Workflow) : List (Step × Reference) :=
  w.steps.flatMap fun s => s.mentions.map fun r => (s, r)

namespace Admission

open Relation (TransGen)

variable {w : Workflow}

/-- A reference to the outputs of a step that its own step does not depend on. -/
def Strays (w : Workflow) (s : Step) (r : Reference) : Prop :=
  r.scope = .steps ∧ ¬∃ head, r.head? = some head ∧ TransGen w.DependsOn s.id head

theorem strays_iff {s : Step} {r : Reference} :
    Strays w s r ↔ ¬r.Within (TransGen w.DependsOn s.id) := by
  obtain ⟨raw, scope, path⟩ := r
  rw [Strays, Reference.Within, not_or]
  refine and_congr_left fun _ => ?_
  cases scope with
  | input => exact iff_of_false (by rintro ⟨⟩) (fun apart => apart rfl)
  | steps => exact iff_of_true rfl (by rintro ⟨⟩)

/-! ### One reference after the other -/

/-- Checks a reference in an input of a step. -/
def checkMention (known : List (String × List String)) (m : Step × Reference) :
    Except Refusal Unit :=
  if isDeclared (DependencyGraph.dependenciesIn known m.1.id) m.2 then .ok ()
  else .error (.undeclared m.1.id m.2.raw m.2.head?)

theorem forM_congr {α : Type} {items : List α} {f g : α → Except Refusal Unit}
    (same : ∀ a ∈ items, f a = g a) : items.forM f = items.forM g := by
  induction items with
  | nil => rfl
  | cons a rest ih =>
      obtain ⟨first, later⟩ := List.forall_mem_cons.mp same
      change (f a >>= fun _ => rest.forM f) = (g a >>= fun _ => rest.forM g)
      rw [first, ih later]

theorem forM_flatMap {α β : Type} {items : List α} {parts : α → List β}
    {check : β → Except Refusal Unit} :
    (items.flatMap parts).forM check = items.forM fun a => (parts a).forM check := by
  induction items with
  | nil => rfl
  | cons a rest ih =>
      change _ = ((parts a).forM check >>= fun _ => rest.forM fun a => (parts a).forM check)
      rw [← ih, List.flatMap_cons]
      exact List.forM_append

/-- An input that can be read is refused for the first of its references that is not declared. -/
theorem checkInput_eq_forM {known : List (String × List String)} {s : Step} {v : Value}
    {references : List Reference} (read : Reference.allIn v = .ok references) :
    checkInput s.id (DependencyGraph.dependenciesIn known s.id) v =
      references.forM fun r => checkMention known (s, r) := by
  rw [checkInput_of_allIn read]
  clear read
  induction references with
  | nil => rfl
  | cons r rest ih =>
      change _ = (checkMention known (s, r) >>= fun _ => rest.forM fun r => checkMention known (s, r))
      rw [List.find?_cons, ← ih, checkMention]
      cases isDeclared (DependencyGraph.dependenciesIn known s.id) r <;> rfl

/-- Where all inputs can be read, the references of a workflow are checked in their order. -/
theorem checkReferences_eq_forM_mentions {known : List (String × List String)}
    (readable : ∀ s ∈ w.steps, ∀ f ∈ s.inputs, ∃ references, Reference.allIn f.2 = .ok references) :
    checkReferences known w.steps = w.mentions.forM (checkMention known) := by
  rw [checkReferences_eq_forM, Workflow.mentions, forM_flatMap]
  refine forM_congr fun s member => ?_
  have mapped : (s.mentions.map fun r => (s, r)).forM (checkMention known) =
      s.mentions.forM fun r => checkMention known (s, r) := List.forM_map
  rw [mapped, Step.mentions, forM_flatMap]
  refine forM_congr fun f input => ?_
  obtain ⟨references, read⟩ := readable s member f input
  rw [checkInput_eq_forM read, read]
  rfl

/-! ### Mentions of a workflow -/

/-- What a readable workflow mentions is what an input of a step mentions. -/
theorem mem_mentions_iff
    (readable : ∀ s ∈ w.steps, ∀ f ∈ s.inputs, ∃ references, Reference.allIn f.2 = .ok references)
    {s : Step} {r : Reference} :
    (s, r) ∈ w.mentions ↔ s ∈ w.steps ∧ ∃ f ∈ s.inputs, f.2.Mentions r := by
  have inStep (member : s ∈ w.steps) : r ∈ s.mentions ↔ ∃ f ∈ s.inputs, f.2.Mentions r := by
    rw [Step.mentions, List.mem_flatMap]
    refine exists_congr fun f => and_congr_right fun input => ?_
    obtain ⟨references, read⟩ := readable s member f input
    rw [read, ← Reference.mem_allIn_iff read]
    rfl
  rw [Workflow.mentions, List.mem_flatMap]
  constructor
  · rintro ⟨t, member, inside⟩
    obtain ⟨_, mentioned, same⟩ := List.mem_map.mp inside
    cases same
    exact ⟨member, (inStep member).mp mentioned⟩
  · rintro ⟨member, mentioned⟩
    exact ⟨s, member, List.mem_map.mpr ⟨r, (inStep member).mpr mentioned, rfl⟩⟩

section Gathered

variable {g : DependencyGraph} {known : List (String × List String)}
  (built : DependencyGraph.ofWorkflow w = .ok g) (distinct : w.Distinct)
  (gathered : g.ancestors = .ok known)
include built distinct gathered

theorem isDeclared_eq_true_iff {s : Step} (member : s ∈ w.steps) {r : Reference} :
    isDeclared (DependencyGraph.dependenciesIn known s.id) r = true ↔ ¬Strays w s r := by
  have listed : (· ∈ DependencyGraph.dependenciesIn known s.id) = TransGen w.DependsOn s.id :=
    funext fun d => propext (DependencyGraph.mem_ancestors built distinct gathered member)
  rw [isDeclared_iff, listed, strays_iff, not_not]

theorem checkMention_eq_ok_iff {s : Step} (member : s ∈ w.steps) {r : Reference} :
    checkMention known (s, r) = .ok () ↔ ¬Strays w s r := by
  rw [← isDeclared_eq_true_iff built distinct gathered member, checkMention]
  split
  · exact iff_of_true rfl ‹_›
  · exact iff_of_false (by rintro ⟨⟩) ‹_›

theorem checkMention_eq_error_iff {s : Step} (member : s ∈ w.steps) {r : Reference} {e : Refusal} :
    checkMention known (s, r) = .error e ↔ Strays w s r ∧ e = .undeclared s.id r.raw r.head? := by
  have declared := isDeclared_eq_true_iff built distinct gathered member (r := r)
  rw [checkMention]
  by_cases strays : Strays w s r
  · rw [if_neg fun found => declared.mp found strays]
    constructor
    · intro failed
      cases failed
      exact ⟨strays, rfl⟩
    · rintro ⟨-, rfl⟩
      rfl
  · rw [if_pos (declared.mpr strays)]
    exact iff_of_false (by rintro ⟨⟩) (fun failed => strays failed.1)

end Gathered

/-! ### Exactness -/

/-- The check of references is exact. The ancestors of a step are found, whatever the order of the
steps, to be what it depends on, directly or not; the workflow is refused over a reference exactly if an
input of a step mentions one that strays; and the refusal names the first that does, in the order of the
steps, of their inputs and of the texts. -/
theorem refuses_first_stray (w : Workflow) (some : w.steps ≠ [])
    (few : w.steps.length ≤ Refusal.maxSteps) (distinct : w.Distinct)
    (passed : ∀ s ∈ w.steps, checkStep s = .ok ()) {g : DependencyGraph}
    (built : DependencyGraph.ofWorkflow w = .ok g)
    (readable : ∀ s ∈ w.steps, ∀ f ∈ s.inputs, ∃ references, Reference.allIn f.2 = .ok references) :
    (∃ known, g.ancestors = .ok known ∧ (known.map (·.1)).Perm (w.steps.map (·.id)) ∧
      ∀ s ∈ w.steps, ∃ found, DependencyGraph.entry known s.id = .ok found ∧
        ∀ d, d ∈ found ↔ TransGen w.DependsOn s.id d) ∧
    ((∃ step raw head, check w = .error (.undeclared step raw head)) ↔
      ∃ s ∈ w.steps, ∃ f ∈ s.inputs, ∃ r, f.2.Mentions r ∧ Strays w s r) ∧
    (∀ e, check w = .error e ↔ ∃ front s r back, w.mentions = front ++ (s, r) :: back ∧
      (∀ m ∈ front, ¬Strays w m.1 m.2) ∧ Strays w s r ∧ e = .undeclared s.id r.raw r.head?) := by
  obtain ⟨known, gathered, entries, reaches⟩ := DependencyGraph.exists_ancestors built distinct
  have checked : check w = w.mentions.forM (checkMention known) := by
    rw [check_of_built some few
      (checkSteps_eq_ok_iff.mpr ⟨distinct, fun _ _ => List.not_mem_nil, passed⟩) built gathered]
    exact checkReferences_eq_forM_mentions readable
  have inside {s : Step} {r : Reference} (mentioned : (s, r) ∈ w.mentions) : s ∈ w.steps :=
    ((mem_mentions_iff readable).mp mentioned).1
  have first (e : Refusal) : check w = .error e ↔ ∃ front s r back,
      w.mentions = front ++ (s, r) :: back ∧ (∀ m ∈ front, ¬Strays w m.1 m.2) ∧ Strays w s r ∧
        e = .undeclared s.id r.raw r.head? := by
    rw [checked, forM_eq_error]
    constructor
    · rintro ⟨front, ⟨s, r⟩, back, split, before, failed⟩
      have member := inside (split ▸ List.mem_append_right front List.mem_cons_self)
      refine ⟨front, s, r, back, split, fun m earlier => ?_,
        (checkMention_eq_error_iff built distinct gathered member).mp failed⟩
      have listed := inside (split ▸ List.mem_append_left _ earlier)
      exact (checkMention_eq_ok_iff built distinct gathered listed).mp (before m earlier)
    · rintro ⟨front, s, r, back, split, before, failed⟩
      have member := inside (split ▸ List.mem_append_right front List.mem_cons_self)
      refine ⟨front, (s, r), back, split, fun m earlier => ?_,
        (checkMention_eq_error_iff built distinct gathered member).mpr failed⟩
      have listed := inside (split ▸ List.mem_append_left _ earlier)
      exact (checkMention_eq_ok_iff built distinct gathered listed).mpr (before m earlier)
  refine ⟨⟨known, gathered, entries, reaches⟩, ?_, first⟩
  constructor
  · rintro ⟨step, raw, head, refused⟩
    obtain ⟨front, s, r, back, split, -, strays, -⟩ := (first _).mp refused
    obtain ⟨member, f, input, mentioned⟩ := (mem_mentions_iff readable).mp
      (split ▸ List.mem_append_right front List.mem_cons_self)
    exact ⟨s, member, f, input, r, mentioned, strays⟩
  · rintro ⟨s, member, f, input, r, mentioned, strays⟩
    have listed : (s, r) ∈ w.mentions :=
      (mem_mentions_iff readable).mpr ⟨member, f, input, mentioned⟩
    have refused : ¬check w = .ok () := by
      intro admitted
      rw [checked, forM_eq_ok] at admitted
      exact (checkMention_eq_ok_iff built distinct gathered member).mp (admitted _ listed) strays
    cases verdict : check w with
    | ok _ => exact absurd verdict refused
    | error e =>
        obtain ⟨_, t, q, _, _, _, _, rfl⟩ := (first e).mp verdict
        exact ⟨t.id, q.raw, q.head?, rfl⟩

/-- A script step that depends on another and mentions it, and then itself. -/
def leading : Step :=
  { id := "b"
    kind := StepKind.script.name
    config := [("script", .text "\x7b\x7d")]
    inputs := [("t", .text "\x7b\x7bsteps.a.x\x7d\x7d \x7b\x7bsteps.b.x\x7d\x7d")]
    dependencies := ["a"] }

/-- The step that it depends on. -/
def trailing : Step :=
  { id := "a"
    kind := StepKind.script.name
    config := [("script", .text "\x7b\x7d")] }

/-- A workflow in which the dependency is declared last. -/
def lateWorkflow : Workflow := { id := "late", name := "Late", steps := [leading, trailing] }

def lateGraph : DependencyGraph :=
  ⟨["b", "a"], [("b", ["a"]), ("a", [])], [("a", 0), ("b", 1)]⟩

theorem ofWorkflow_late : DependencyGraph.ofWorkflow lateWorkflow = .ok lateGraph := by
  have walked : Graph.walk ["b", "a"] (DependencyGraph.dependenciesIn lateGraph.edges) =
      .ok ["a", "b"] := by
    simp [Graph.walk, Graph.walkFrom, lateGraph, DependencyGraph.dependenciesIn]
  exact DependencyGraph.ofWorkflow_eq_ok.mpr ⟨rfl, _, walked, rfl⟩

theorem distinct_late : lateWorkflow.Distinct := by
  show ["b", "a"].Nodup
  decide

theorem checkStep_late : ∀ s ∈ lateWorkflow.steps, checkStep s = .ok () := by
  have plan {s : Step} (member : s ∈ lateWorkflow.steps) :
      Plan.ofStep s = .script { script := "\x7b\x7d" } := by
    rcases List.mem_pair.mp member with rfl | rfl <;> (rw [Plan.ofStep]; rfl)
  intro s member
  rw [checkStep, plan member]
  rcases List.mem_pair.mp member with rfl | rfl <;> decide +kernel

/-- What such a step mentions. -/
def mentioned (id : String) : Reference :=
  ⟨"\x7b\x7bsteps." ++ id ++ ".x\x7d\x7d", .steps, [.key id, .key "x"]⟩

theorem allIn_late : Reference.allIn (.text "\x7b\x7bsteps.a.x\x7d\x7d \x7b\x7bsteps.b.x\x7d\x7d") =
    .ok [mentioned "a", mentioned "b"] := by
  decide +kernel

theorem mentions_late :
    lateWorkflow.mentions = [(leading, mentioned "a"), (leading, mentioned "b")] := by
  simp only [Workflow.mentions, Step.mentions, lateWorkflow, leading, trailing, List.flatMap_cons,
    List.flatMap_nil, List.append_nil, allIn_late]
  rfl

/-- The step may mention its dependency, though that is declared after it, but not itself. -/
theorem refuses_first_stray_late :
    check lateWorkflow = .error (.undeclared "b" "\x7b\x7bsteps.b.x\x7d\x7d" (some "b")) := by
  have readable : ∀ s ∈ lateWorkflow.steps, ∀ f ∈ s.inputs, ∃ references,
      Reference.allIn f.2 = .ok references := by
    intro s member f input
    rcases List.mem_pair.mp member with rfl | rfl
    · rw [List.mem_singleton.mp input]
      exact ⟨_, allIn_late⟩
    · cases input
  obtain ⟨-, -, first⟩ := refuses_first_stray lateWorkflow (List.cons_ne_nil _ _)
    (Nat.le_of_ble_eq_true rfl) distinct_late checkStep_late ofWorkflow_late readable
  refine (first _).mpr ⟨[(leading, mentioned "a")], leading, mentioned "b", [], mentions_late, ?_, ?_, rfl⟩
  · intro m member
    rw [List.mem_singleton.mp member]
    have edge : lateWorkflow.DependsOn "b" "a" := ⟨leading, List.mem_cons_self, rfl, List.mem_cons_self⟩
    exact fun strays => strays.2 ⟨"a", rfl, .single edge⟩
  · refine ⟨rfl, ?_⟩
    rintro ⟨head, ⟨rfl⟩, path⟩
    exact DependencyGraph.acyclic_of_built ofWorkflow_late distinct_late "b" path

end Admission

end Stepwise
