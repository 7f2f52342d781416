import Mathlib.Algebra.GroupWithZero.Nat
import Stepwise.Proofs.Execution.Attempt

/-!
What is asked of the world. A remote call fetches once at most, and not before it has a token and knows
its endpoint. A completion is requested once at most, and nothing else asks for anything.
-/

namespace Stepwise

/-! ### Traces -/

namespace Trace

variable {t u : Trace}

/-- How many requests were made. -/
def requests (t : Trace) : Nat := t.fetches.length + t.completions.length

/-- Traces one after the other. -/
def join (ts : List Trace) : Trace := ts.foldr (· ++ ·) {}

/-- The requests are the same. What was overwritten may differ. -/
def AsksAs (t u : Trace) : Prop := t.fetches = u.fetches ∧ t.completions = u.completions

@[simp]
theorem fetches_append (t u : Trace) : (t ++ u).fetches = t.fetches ++ u.fetches := rfl

@[simp]
theorem completions_append (t u : Trace) : (t ++ u).completions = t.completions ++ u.completions := rfl

@[simp]
theorem overwrites_append (t u : Trace) : (t ++ u).overwrites = t.overwrites ++ u.overwrites := rfl

@[simp]
theorem append_empty (t : Trace) : t ++ {} = t := by
  show Trace.mk (t.fetches ++ []) (t.completions ++ []) (t.overwrites ++ []) = t
  simp only [List.append_nil]

@[simp]
theorem empty_append (t : Trace) : {} ++ t = t := rfl

theorem append_assoc (t u v : Trace) : t ++ u ++ v = t ++ (u ++ v) := by
  show Trace.mk _ _ _ = Trace.mk _ _ _
  simp only [fetches_append, completions_append, overwrites_append, List.append_assoc]

theorem requests_append (t u : Trace) : (t ++ u).requests = t.requests + u.requests := by
  simp only [requests, fetches_append, completions_append, List.length_append]
  omega

theorem requests_eq_zero : t.requests = 0 ↔ t.fetches = [] ∧ t.completions = [] := by
  rw [requests, Nat.add_eq_zero_iff, List.length_eq_zero_iff, List.length_eq_zero_iff]

theorem join_cons (t : Trace) (ts : List Trace) : join (t :: ts) = t ++ join ts := rfl

theorem join_append (ts us : List Trace) : join (ts ++ us) = join ts ++ join us := by
  induction ts with
  | nil => rfl
  | cons t ts ih => rw [List.cons_append, join_cons, join_cons, ih, append_assoc]

theorem requests_join (ts : List Trace) : (join ts).requests = (ts.map requests).sum := by
  induction ts with
  | nil => rfl
  | cons t ts ih => rw [join_cons, requests_append, ih, List.map_cons, List.sum_cons]

theorem join_replicate_empty (n : Nat) : join (List.replicate n {}) = {} := by
  induction n with
  | zero => rfl
  | succ n ih => rw [List.replicate_succ, join_cons, ih, append_empty]

theorem AsksAs.requests (same : t.AsksAs u) : t.requests = u.requests := by
  rw [Trace.requests, Trace.requests, same.1, same.2]

theorem AsksAs.append {t' u' : Trace} (first : t.AsksAs t') (second : u.AsksAs u') :
    (t ++ u).AsksAs (t' ++ u') := by
  constructor
  · rw [fetches_append, fetches_append, first.1, second.1]
  · rw [completions_append, completions_append, first.2, second.2]

end Trace

/-! ### Bounds -/

namespace Asked

variable {α β : Type} {n k : Nat} {e : StepError}

theorem trace_bind (x : Asked α) (f : α → Asked β) :
    (x >>= f).run.trace = x.run.trace ++ match x.run.value with
      | .ok a => (f a).run.trace
      | .error _ => {} := by
  show x.run.trace ++ (ExceptT.bindCont f x.run.value).trace = _
  cases x.run.value <;> rfl

theorem trace_map (f : α → β) (x : Asked α) : (f <$> x).run.trace = x.run.trace := by
  simp only [Functor.map, ExceptT.map, ExceptT.run, ExceptT.mk, bind]
  cases (x : Traced (Except StepError α)).value <;> exact Trace.append_empty _

theorem trace_lift (x : Traced α) : (ExceptT.lift x : Asked α).run.trace = x.trace :=
  Trace.append_empty x.trace

theorem trace_lift_bind (x : Traced α) {f : α → Asked β} (still : ∀ a, (f a).run.trace = {}) :
    ((ExceptT.lift x : Asked α) >>= f).run.trace = x.trace := by
  rw [trace_bind, trace_lift]
  exact (congrArg _ (still x.value)).trans (Trace.append_empty _)

theorem run_checked_ok (a : α) (f : α → Asked β) : (checked (.ok a) >>= f).run = (f a).run := rfl

theorem run_lift_bind (x : Traced α) (f : α → Asked β) :
    ((ExceptT.lift x : Asked α) >>= f).run =
      ⟨(f x.value).run.value, x.trace ++ (f x.value).run.trace⟩ := by
  show Traced.mk _ (x.trace ++ {} ++ _) = _
  rw [Trace.append_empty]
  rfl

theorem trace_guard {c : Prop} [Decidable c] {rest : Unit → Asked α} :
    (if c then throw e >>= rest else rest ()).run.trace = if c then {} else (rest ()).run.trace := by
  split <;> rfl

/-- So many fetches and completions are asked for at most. -/
def Makes (n k : Nat) (x : Asked α) : Prop :=
  x.run.trace.fetches.length ≤ n ∧ x.run.trace.completions.length ≤ k

/-- Nothing is asked for. -/
abbrev Quiet (x : Asked α) : Prop := Makes 0 0 x

theorem quiet_pure (a : α) : Quiet (pure a : Asked α) := ⟨Nat.le_refl 0, Nat.le_refl 0⟩

theorem quiet_throw (e : StepError) : Quiet (throw e : Asked α) := ⟨Nat.le_refl 0, Nat.le_refl 0⟩

theorem quiet_checked (x : Checked α) : Quiet (Asked.checked x) := by
  cases x with
  | ok a => exact quiet_pure a
  | error f => exact quiet_throw (.fault f)

theorem makes_asks (w : World) (request : Fetch) : Makes 1 0 (ExceptT.lift (w.asks request)) :=
  ⟨Nat.le_refl 1, Nat.le_refl 0⟩

theorem Quiet.makes {x : Asked α} (quiet : Quiet x) : Makes n k x :=
  ⟨Nat.le_trans quiet.1 (Nat.zero_le n), Nat.le_trans quiet.2 (Nat.zero_le k)⟩

theorem Quiet.trace {x : Asked α} (quiet : Quiet x) :
    x.run.trace.fetches = [] ∧ x.run.trace.completions = [] :=
  ⟨List.eq_nil_of_length_eq_zero (Nat.le_zero.mp quiet.1),
    List.eq_nil_of_length_eq_zero (Nat.le_zero.mp quiet.2)⟩

/-- What is done before any request does not count. -/
theorem Makes.after {x : Asked α} {f : α → Asked β} (quiet : Quiet x) (next : ∀ a, Makes n k (f a)) :
    Makes n k (x >>= f) := by
  rw [Makes, trace_bind, Trace.fetches_append, Trace.completions_append, quiet.trace.1, quiet.trace.2,
    List.nil_append, List.nil_append]
  cases x.run.value with
  | ok a => exact next a
  | error e => exact ⟨Nat.zero_le n, Nat.zero_le k⟩

/-- What is done with the answers does not count. -/
theorem Makes.before {x : Asked α} {f : α → Asked β} (first : Makes n k x) (rest : ∀ a, Quiet (f a)) :
    Makes n k (x >>= f) := by
  rw [Makes, trace_bind, Trace.fetches_append, Trace.completions_append]
  cases x.run.value with
  | ok a =>
      rw [(rest a).trace.1, (rest a).trace.2, List.append_nil, List.append_nil]
      exact first
  | error e =>
      rw [List.append_nil, List.append_nil]
      exact first

theorem Makes.map {x : Asked α} (makes : Makes n k x) (f : α → β) : Makes n k (f <$> x) := by
  rwa [Makes, trace_map]

/-- Behind a test that may fail what follows decides. -/
theorem Makes.guard {c : Prop} [Decidable c] {rest : Unit → Asked α}
    (next : ∀ u, Makes n k (rest u)) : Makes n k (if c then throw e >>= rest else rest ()) := by
  rw [Makes, trace_guard]
  split
  · exact ⟨Nat.zero_le n, Nat.zero_le k⟩
  · exact next ()

end Asked

/-! ### Remote calls -/

namespace Remote

open Asked

variable (w : World) (token : Value) (inputs params : Fields)

theorem makes_get (url : String) : Makes 1 0 (get w url token params) := by
  refine .after (quiet_checked _) fun _ => .before (makes_asks w _) fun reply => ?_
  split
  · exact quiet_throw _
  · split
    · exact quiet_throw _
    · split
      · exact quiet_pure _
      · exact quiet_throw _

theorem quiet_videoId (need : RemoteNeed) : Quiet (videoId inputs params need) := by
  refine .after (quiet_checked _) fun _ => .after (quiet_checked _) fun _ => ?_
  split
  · exact quiet_pure _
  · exact quiet_throw _

theorem makes_channel : Makes 1 0 (channel w token inputs params) := by
  refine .after (quiet_checked _) fun _ => .before (makes_get w token _ _) fun _ => ?_
  exact .after (quiet_checked _) fun _ => .after (quiet_checked _) fun _ =>
    .guard fun _ => quiet_checked _

theorem makes_videos : Makes 1 0 (videos w token inputs params) := by
  refine .after (quiet_checked _) fun _ => ?_
  split
  · exact (quiet_pure _).makes
  · exact .after (quiet_checked _) fun _ => .before (makes_get w token _ _) fun _ => quiet_checked _

theorem makes_search : Makes 1 0 (search w token inputs params) :=
  .after (quiet_checked _) fun _ => .before (makes_get w token _ _) fun _ => quiet_checked _

theorem makes_analytics : Makes 1 0 (analytics w token inputs params) := by
  refine .after (quiet_checked _) fun _ => .guard fun _ => ?_
  exact .after (quiet_checked _) fun _ => .after (quiet_checked _) fun _ =>
    .after (quiet_checked _) fun _ => .before (makes_get w token _ _) fun _ => quiet_checked _

theorem makes_playlistItems : Makes 1 0 (playlistItems w token inputs params) := by
  refine .after (quiet_checked _) fun _ => .after (quiet_checked _) fun _ => .guard fun _ => ?_
  exact .before (makes_get w token _ _) fun _ => quiet_checked _

theorem makes_comments : Makes 1 0 (comments w token inputs params) :=
  .after (quiet_videoId inputs params _) fun _ => .before (makes_get w token _ _) fun _ =>
    quiet_checked _

theorem makes_captions : Makes 1 0 (captions w token inputs params) :=
  .after (quiet_videoId inputs params _) fun _ => .before (makes_get w token _ _) fun _ =>
    quiet_checked _

/-- No endpoint makes a second request. -/
theorem makes_endpoint {name : String} {endpoint : World → Value → Fields → Fields → Asked Fields}
    (listed : (name, endpoint) ∈ endpoints) : Makes 1 0 (endpoint w token inputs params) := by
  simp only [endpoints, List.mem_cons, List.not_mem_nil, or_false, Prod.mk.injEq] at listed
  rcases listed with ⟨-, rfl⟩ | ⟨-, rfl⟩ | ⟨-, rfl⟩ | ⟨-, rfl⟩ | ⟨-, rfl⟩ | ⟨-, rfl⟩ | ⟨-, rfl⟩
  · exact makes_channel w token inputs params
  · exact makes_videos w token inputs params
  · exact makes_search w token inputs params
  · exact makes_analytics w token inputs params
  · exact makes_playlistItems w token inputs params
  · exact makes_comments w token inputs params
  · exact makes_captions w token inputs params

theorem makes_call (config : RemoteConfig) : Makes 1 0 (call w config inputs) := by
  refine .after (quiet_checked _) fun _ => .guard fun _ => ?_
  split
  · rename_i name endpoint found
    exact makes_endpoint w _ inputs _ (List.mem_of_find?_eq_some found)
  · exact (quiet_throw _).makes

/-- A call without a token, or of an endpoint that is not there, asks for nothing. -/
theorem call_of_fetches {config : RemoteConfig}
    (fetched : (call w config inputs).run.trace.fetches ≠ []) :
    (Fields.getD inputs "access_token").truthy = .ok true ∧
      config.endpoint ∈ endpoints.map (·.1) := by
  rw [call, trace_bind, Trace.fetches_append, (quiet_checked _).trace.1, List.nil_append] at fetched
  cases test : (Fields.getD inputs "access_token").truthy with
  | error f =>
      rw [test] at fetched
      exact absurd rfl fetched
  | ok given =>
      rw [test] at fetched
      cases given with
      | false => exact absurd rfl fetched
      | true =>
          refine ⟨rfl, ?_⟩
          cases found : endpoints.find? (·.1 == config.endpoint) with
          | none =>
              simp only [found] at fetched
              exact absurd rfl fetched
          | some entry =>
              obtain ⟨name, endpoint⟩ := entry
              have same := List.find?_some found
              exact List.mem_map.mpr
                ⟨_, List.mem_of_find?_eq_some found, eq_of_beq same⟩

example : endpoints.map (·.1) = ["channels", "videos", "search", "analytics-reports",
    "playlist-items", "comment-threads", "captions"] := rfl

end Remote

/-! ### Completions, scripts and groups -/

open Asked

variable (w : World) (ctx : Context)

/-- A request is made once there are messages, or not at all. -/
theorem Completion.trace_request (outputs : List String) (config : CompletionConfig)
    (inputs : Fields) :
    (Completion.request w ctx outputs config inputs).run.trace = {} ∨
      ∃ sent, messages (pick w (Fields.getD inputs "prompt") config.prompt config.promptKey)
          (pick w (Fields.getD inputs "system") config.system config.systemKey)
          (inputs.filter fun f => !messageNames.contains f.1) = .ok sent ∧
        (Completion.request w ctx outputs config inputs).run.trace =
          { completions := [⟨config.model, sent, config.maxTokens, config.temperature, ctx.run⟩] } := by
  rw [request, trace_guard]
  split
  · exact Or.inl rfl
  · rw [trace_bind]
    cases messages (pick w (Fields.getD inputs "prompt") config.prompt config.promptKey)
        (pick w (Fields.getD inputs "system") config.system config.systemKey)
        (inputs.filter fun f => !messageNames.contains f.1) with
    | error f => exact Or.inl rfl
    | ok sent =>
        cases w.complete? with
        | none => exact Or.inl rfl
        | some complete =>
            refine Or.inr ⟨sent, rfl, trace_lift_bind _ fun reply => ?_⟩
            cases reply with
            | failure detail => rfl
            | text reply =>
                dsimp only
                split <;> rfl

theorem Completion.makes_request (outputs : List String) (config : CompletionConfig)
    (inputs : Fields) : Makes 0 1 (Completion.request w ctx outputs config inputs) := by
  rcases Completion.trace_request w ctx outputs config inputs with none | ⟨_, -, once⟩
  · rw [Makes, none]
    exact ⟨Nat.zero_le 0, Nat.zero_le 1⟩
  · rw [Makes, once]
    exact ⟨Nat.zero_le 0, Nat.le_refl 1⟩

theorem Group.quiet_conclude (group : String) (attempts : List (Checked StepResult)) :
    Quiet (Group.conclude group attempts) := by
  have noted (merged : Fields) (results : List StepResult) :
      (Group.merge group merged results).trace.requests = 0 := by
    induction results generalizing merged with
    | nil => rfl
    | cons r rest ih =>
        rw [Group.merge, Trace.requests_append, ih]
        split <;> rfl
  refine .after (quiet_checked _) fun results => .guard fun _ => ?_
  show Makes 0 0 (ExceptT.lift _)
  rw [Makes, trace_lift]
  exact (Nat.add_eq_zero_iff.mp (noted [] results)).imp Nat.le_of_eq Nat.le_of_eq

/-! ### Attempts -/

/-- An attempt asks for what the executor asks for, if it comes to that, and else for nothing. -/
theorem trace_attempt_cases (s : Step) :
    (∃ inputs, w.executes s.kind = true ∧ Fields.resolve ctx s.inputs = .ok inputs ∧
        ∀ execute, (attempt w ctx s execute).trace = (execute inputs).run.trace) ∨
      ∀ execute, (attempt w ctx s execute).trace = {} := by
  by_cases registered : w.executes s.kind = true
  · cases resolved : Fields.resolve ctx s.inputs with
    | ok inputs =>
        refine Or.inl ⟨inputs, registered, rfl, fun execute => ?_⟩
        rw [attempt_of_resolved registered resolved]
        rfl
    | error f =>
        refine Or.inr fun execute => ?_
        simp only [attempt, registered, resolved]
        rfl
  · refine Or.inr fun execute => ?_
    simp only [attempt, Bool.eq_false_iff.mpr registered]
    rfl

end Stepwise
