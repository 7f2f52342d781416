import Stepwise.Proofs.Execution.Closing
import Stepwise.Proofs.Reference.Resolution

/-!
What a group hands on. The executor of a sub-step is given the inputs that the sub-step declares,
resolved once, and below them the values that its group holds. These have been resolved when the group
was executed, and are resolved once more on the way to each sub-step: a value of the group comes through
unchanged exactly where it resolves to itself.
-/

namespace Stepwise

/-! ### Values that are resolved again -/

namespace Value

variable {ctx : Context} {v : Value}

/-- The value after it has been resolved a number of times. -/
def resolveTimes (ctx : Context) : Nat → Value → Checked Value
  | 0, v => .ok v
  | n + 1, v => do resolveTimes ctx n (← v.resolve ctx)

theorem resolveTimes_succ {w : Value} (resolved : v.resolve ctx = .ok w) (n : Nat) :
    v.resolveTimes ctx (n + 1) = w.resolveTimes ctx n := by
  rw [resolveTimes, resolved]
  rfl

theorem resolveTimes_of_fixed (fixed : v.resolve ctx = .ok v) (n : Nat) :
    v.resolveTimes ctx n = .ok v := by
  induction n with
  | zero => rfl
  | succ n ih => rw [resolveTimes_succ fixed, ih]

/-- No text, or a text that is no reference and has no placeholder. -/
def Inert (v : Value) : Prop :=
  ∀ s, v.textOf? = some s →
    Reference.ofText s = .ok none ∧ Text.contains ['\x7b', '\x7b'] s.toList = false

theorem resolve_of_inert (inert : v.Inert) : v.resolve ctx = .ok v := by
  cases text : v.textOf? with
  | none =>
      have whole : Reference.ofValue v = .ok none := by simp only [Reference.ofValue, text]
      exact resolve_of_other whole text
  | some s =>
      obtain ⟨plain, closed⟩ := inert s text
      have whole : Reference.ofValue v = .ok none := by simp only [Reference.ofValue, text, plain]
      rw [resolve, whole]
      simp only [text]
      show (if _ then _ else _) = _
      rw [if_neg (Bool.eq_false_iff.mp closed)]
      rfl

end Value

/-! ### Inputs of a step -/

/-- The input that a step declares under a name; of several the last counts. -/
def Step.input? (s : Step) (name : String) : Option Value := Fields.get? s.inputs.reverse name

/-- Whatever it does with them, the executor of the step is given these inputs. -/
def Step.Receives (w : World) (ctx : Context) (s : Step) (received : Fields) : Prop :=
  ∀ execute, Stepwise.attempt w ctx s execute = settle s.id (execute received)

namespace Step

variable {w : World} {ctx : Context} {s : Step} {received : Fields}

theorem receives_of_resolved (registered : w.executes s.kind = true)
    (resolved : Fields.resolve ctx s.inputs = .ok received) : s.Receives w ctx received :=
  fun _ => attempt_of_resolved registered resolved

/-- A step whose attempt fails before its executor is called is given nothing. -/
private theorem not_receives_of_failed {message : String}
    (failed : ∀ execute, (Stepwise.attempt w ctx s execute).value = .ok ⟨s.id, .failed message⟩) :
    ¬s.Receives w ctx received := by
  intro receives
  have done := failed fun _ => pure []
  rw [receives] at done
  cases done

theorem resolved_of_receives (receives : s.Receives w ctx received) :
    w.executes s.kind = true ∧ Fields.resolve ctx s.inputs = .ok received := by
  by_cases registered : w.executes s.kind = true
  · refine ⟨registered, ?_⟩
    cases resolved : Fields.resolve ctx s.inputs with
    | error e =>
        exact absurd receives
          (not_receives_of_failed fun _ => attempt_of_unresolved registered resolved)
    | ok inputs =>
        -- An executor that tells the inputs apart sees the ones that are resolved.
        by_contra other
        classical
        have told := receives fun given => if given = received then pure [] else throw .groupEmpty
        rw [attempt_of_resolved registered resolved, if_pos rfl,
          if_neg fun same => other (congrArg Except.ok same)] at told
        cases told
  · exact absurd receives (not_receives_of_failed fun _ =>
      attempt_of_unregistered (Bool.eq_false_iff.mpr registered))

end Step

/-! ### Groups -/

namespace Group

variable {w : World} {ctx : Context} {held received : Fields}

/-- What is recorded of a member of a group that holds inputs. -/
def attemptAt (w : World) (ctx : Context) (held : Fields) (member : Step × Plan) :
    Checked StepResult :=
  (attempt w ctx (overlaid held member.1)
    fun own => member.2.execute w ctx (overlaid held member.1) own).value

theorem value_attempts (subs : List (Step × Plan)) :
    (Plan.execute.attempts w ctx held subs).value = subs.map (attemptAt w ctx held) := by
  induction subs with
  | nil =>
      rw [Plan.execute.attempts]
      rfl
  | cons member rest ih =>
      rw [Plan.execute.attempts, List.map_cons, ← ih]
      rfl

/-- A group comes to what its members have come to. -/
theorem value_execute {group : Step} {subs : List (Step × Plan)} (some : subs ≠ [])
    (runs : w.runsGroups = true) :
    (Plan.execute w ctx group held (.group subs)).run.value =
      (Fields.entries <$> conclude group.id (subs.map (attemptAt w ctx held))).run.value := by
  rw [Plan.execute, if_neg (fun none => some (List.isEmpty_iff.mp none)), runs, ← value_attempts]
  rfl

/-- How values are handed on from a group to a sub-step: the sub-steps on the way down, and the inputs
that the executor of the last of them is given. -/
inductive Hands (w : World) (ctx : Context) : Fields → Plan → List Step → Fields → Prop where
  | direct {held received : Fields} {subs : List (Step × Plan)} {sub : Step} {plan : Plan}
      (member : (sub, plan) ∈ subs) (given : (overlaid held sub).Receives w ctx received) :
      Hands w ctx held (.group subs) [sub] received
  | deeper {held between received : Fields} {subs : List (Step × Plan)} {sub : Step} {plan : Plan}
      {way : List Step} (member : (sub, plan) ∈ subs)
      (given : (overlaid held sub).Receives w ctx between)
      (further : Hands w ctx between plan way received) :
      Hands w ctx held (.group subs) (sub :: way) received

/-- A sub-step is given its own inputs, and the values of its group under all other names, all of them
resolved. -/
theorem get?_of_receives {sub : Step} (given : (overlaid held sub).Receives w ctx received)
    (name : String) :
    ((sub.input? name).or (Fields.get? held name) = none → Fields.get? received name = none) ∧
      ∀ v, (sub.input? name).or (Fields.get? held name) = some v →
        ∃ x, v.resolve ctx = .ok x ∧ Fields.get? received name = some x := by
  have resolved : Fields.resolve ctx (Fields.merge held sub.inputs) = .ok received :=
    (Step.resolved_of_receives given).2
  rw [Step.input?, ← Fields.get?_merge]
  exact Fields.get?_resolve resolved

variable {plan : Plan} {way : List Step} {name : String} {v : Value}

/-- A value of the group is resolved once on each level that it is handed down. -/
theorem get?_of_hands (hands : Hands w ctx held plan way received)
    (found : Fields.get? held name = some v) (undeclared : ∀ t ∈ way, t.input? name = none) :
    ∃ x, v.resolveTimes ctx way.length = .ok x ∧ Fields.get? received name = some x := by
  induction hands generalizing v with
  | direct member given =>
      have handed := (get?_of_receives given name).2 v
        (by rw [undeclared _ List.mem_cons_self, Option.none_or, found])
      obtain ⟨x, resolved, atName⟩ := handed
      exact ⟨x, Value.resolveTimes_succ resolved 0, atName⟩
  | deeper member given further ih =>
      have handed := (get?_of_receives given name).2 v
        (by rw [undeclared _ List.mem_cons_self, Option.none_or, found])
      obtain ⟨x, resolved, atName⟩ := handed
      obtain ⟨y, later, reached⟩ := ih atName fun t inside =>
        undeclared t (List.mem_cons_of_mem _ inside)
      refine ⟨y, ?_, reached⟩
      rw [List.length_cons, Value.resolveTimes_succ resolved, later]

theorem get?_of_hands_eq_none (hands : Hands w ctx held plan way received)
    (absent : Fields.get? held name = none) (undeclared : ∀ t ∈ way, t.input? name = none) :
    Fields.get? received name = none := by
  induction hands with
  | direct member given =>
      apply (get?_of_receives given name).1
      rw [undeclared _ List.mem_cons_self, Option.none_or, absent]
  | deeper member given further ih =>
      have unset := (get?_of_receives given name).1
        (by rw [undeclared _ List.mem_cons_self, Option.none_or, absent])
      exact ih unset fun t inside => undeclared t (List.mem_cons_of_mem _ inside)

/-- What the last sub-step declares itself does not depend on the groups above it. -/
theorem get?_of_hands_own {above : List Step} {s : Step}
    (hands : Hands w ctx held plan (above ++ [s]) received) (own : s.input? name = some v) :
    ∃ x, v.resolve ctx = .ok x ∧ Fields.get? received name = some x := by
  generalize path : above ++ [s] = way at hands
  induction hands generalizing above with
  | direct member given =>
      obtain ⟨-, same⟩ := List.append_inj' (path.trans (List.nil_append _).symm) rfl
      cases same
      exact (get?_of_receives given name).2 v (by rw [own, Option.some_or])
  | deeper member given further ih =>
      cases above with
      | nil =>
          cases path
          cases further
      | cons first rest =>
          cases path
          exact ih rfl

/-- A group comes to what its members have come to, and a sub-step at any depth below it is executed
with these inputs: for a name that it declares, the value that this input resolves to; for a name that
only the group holds a value under, what this value comes to when it is resolved once on each level on
the way down. That is the value itself where it resolves to itself, as all data but references and
templates does, and directly below the group it is the value itself in no other case. -/
theorem received_of_hands (w : World) (ctx : Context) :
    (∀ (group : Step) (subs : List (Step × Plan)) (held : Fields), subs ≠ [] → w.runsGroups = true →
      (Plan.execute w ctx group held (.group subs)).run.value =
        (Fields.entries <$> conclude group.id (subs.map (attemptAt w ctx held))).run.value) ∧
    ∀ (held : Fields) (plan : Plan) (above : List Step) (s : Step) (received : Fields),
      Hands w ctx held plan (above ++ [s]) received →
      (∀ name v, s.input? name = some v →
        ∃ x, v.resolve ctx = .ok x ∧ Fields.get? received name = some x) ∧
      (∀ name v, Fields.get? held name = some v → (∀ t ∈ above ++ [s], t.input? name = none) →
        ∃ x, v.resolveTimes ctx (above.length + 1) = .ok x ∧ Fields.get? received name = some x ∧
          (v.Inert ∨ v.resolve ctx = .ok v → x = v) ∧
          (above = [] → x = v → v.resolve ctx = .ok v)) ∧
      ∀ name, Fields.get? held name = none → (∀ t ∈ above ++ [s], t.input? name = none) →
        Fields.get? received name = none := by
  refine ⟨fun group subs held some runs => value_execute some runs, ?_⟩
  intro held plan above s received hands
  refine ⟨fun name v own => get?_of_hands_own hands own, ?_,
    fun name absent undeclared => get?_of_hands_eq_none hands absent undeclared⟩
  intro name v found undeclared
  obtain ⟨x, resolved, reached⟩ := get?_of_hands hands found undeclared
  rw [List.length_append, List.length_singleton] at resolved
  refine ⟨x, resolved, reached, ?_, ?_⟩
  · intro fixed
    have same : v.resolve ctx = .ok v := fixed.elim Value.resolve_of_inert id
    rw [Value.resolveTimes_of_fixed same] at resolved
    cases resolved
    rfl
  · rintro rfl rfl
    cases once : x.resolve ctx with
    | error e =>
        rw [List.length_nil, Value.resolveTimes, once] at resolved
        cases resolved
    | ok y =>
        rw [List.length_nil, Value.resolveTimes_succ once] at resolved
        exact resolved

/-! ### A group whose value is a reference -/

/-- A script step that puts out what it is given. -/
def echo : Step :=
  { id := "echo"
    kind := StepKind.script.name
    config := [("script", .text "\x7b'out': v\x7d")] }

/-- A group of one sub-step. -/
def around (inputs : Fields) (sub : Step) : Step :=
  { id := "around"
    kind := StepKind.group.name
    inputs
    config := [("steps", .list [sub.toValue])] }

/-- The first input of the run is a text that looks like a reference, and so is what this refers to. -/
def referring : Context :=
  { inputs := [(.text "v", .text "$input.w"), (.text "w", .text "$input.u"), (.text "u", .int 1)] }

/-- The executor of the sub-step is given what the value of the group refers to, not the value. -/
theorem reference_is_followed : ∃ held received,
    (around [("v", .text "$input.v")] echo).Receives Engine.silent referring held ∧
      Hands Engine.silent referring held (Plan.ofStep (around [("v", .text "$input.v")] echo)) [echo]
        received ∧
      echo.input? "v" = none ∧ Fields.get? held "v" = some (.text "$input.w") ∧
      Fields.get? received "v" = some (.text "$input.u") := by
  refine ⟨[("v", .text "$input.w")], [("v", .text "$input.u")],
    Step.receives_of_resolved (by decide) rfl, ?_, rfl, rfl, rfl⟩
  have plan : Plan.ofStep (around [("v", .text "$input.v")] echo) = .group [(echo, Plan.ofStep echo)] := by
    rw [Plan.ofStep]
    rfl
  rw [plan]
  exact .direct List.mem_cons_self (Step.receives_of_resolved (by decide) rfl)

theorem received_of_hands_nested : ∃ received,
    Hands Engine.silent referring [("v", .text "$input.w"), ("n", .int 3)]
        (.group [(around [] echo, .group [(echo, Plan.ofStep echo)])]) ([around [] echo] ++ [echo])
        received ∧
      Fields.get? received "v" = some (.int 1) ∧ Fields.get? received "n" = some (.int 3) := by
  have inner : (overlaid [("v", .text "$input.w"), ("n", .int 3)] (around [] echo)).Receives
      Engine.silent referring [("v", .text "$input.u"), ("n", .int 3)] :=
    Step.receives_of_resolved (by decide) rfl
  have hands : Hands Engine.silent referring [("v", .text "$input.w"), ("n", .int 3)]
      (.group [(around [] echo, .group [(echo, Plan.ofStep echo)])]) ([around [] echo] ++ [echo])
      [("v", .int 1), ("n", .int 3)] :=
    .deeper List.mem_cons_self inner
      (.direct List.mem_cons_self (Step.receives_of_resolved (by decide) rfl))
  have undeclared (name : String) : ∀ t ∈ [around [] echo] ++ [echo], t.input? name = none := by
    intro t inside
    rcases List.mem_cons.mp inside with rfl | last
    · rfl
    · rw [List.mem_singleton.mp last]
      rfl
  obtain ⟨-, handed, -⟩ := (received_of_hands Engine.silent referring).2 _ _ _ _ _ hands
  obtain ⟨x, resolved, atV, -⟩ := handed "v" (.text "$input.w") rfl (undeclared "v")
  obtain ⟨y, -, atN, fixed, -⟩ := handed "n" (.int 3) rfl (undeclared "n")
  have twice : Value.resolveTimes referring 2 (.text "$input.w") = .ok (.int 1) := rfl
  rw [List.length_singleton, twice] at resolved
  cases resolved
  rw [fixed (Or.inr rfl)] at atN
  exact ⟨_, hands, atV, atN⟩

end Group

end Stepwise
