import Mathlib.Logic.Relation
import Stepwise.Proofs.Checked
import Stepwise.Script.Evaluation

/-!
The parts of an expression that an evaluation comes to: all of them, but for those that the value of
another part has decided against.
-/

namespace Stepwise.Script

open Relation (ReflTransGen)

variable {scope : Fields} {e : Expr} {v : Value}

namespace Expr

/-- The expressions among the arguments of a call. -/
def argumentsOf (args : List Expr) (keywords : List (String × Expr)) (spread spreadNamed : Option Expr) :
    List Expr :=
  args ++ keywords.map (·.2) ++ spread.toList ++ spreadNamed.toList

theorem evalAll_eq_mapM (items : List Expr) : eval.evalAll scope items = items.mapM (eval scope) := by
  induction items with
  | nil => rfl
  | cons e rest ih => rw [eval.evalAll, ih, List.mapM_cons]

theorem evalPairs_eq_mapM (entries : List (Expr × Expr)) : eval.evalPairs scope entries =
    entries.mapM fun e => do return (← e.1.eval scope, ← e.2.eval scope) := by
  induction entries with
  | nil => rfl
  | cons e rest ih =>
      rw [eval.evalPairs, ih, List.mapM_cons]
      simp only [bind_assoc, pure_bind]

theorem evalFields_eq_mapM (keywords : List (String × Expr)) : eval.evalFields scope keywords =
    keywords.mapM fun e => do return (e.1, ← e.2.eval scope) := by
  induction keywords with
  | nil => rfl
  | cons e rest ih =>
      rw [eval.evalFields, ih, List.mapM_cons]
      simp only [bind_assoc, pure_bind]

/-- The value of an expression, where there is one, is the value of a star. -/
theorem evalOptional_eq_ok {e? : Option Expr} {v? : Option Value} :
    eval.evalOptional scope e? = .ok v? ↔
      e? = none ∧ v? = none ∨ ∃ e v, e? = some e ∧ v? = some v ∧ e.eval scope = .ok v := by
  cases e? with
  | none =>
      rw [eval.evalOptional]
      constructor
      · intro done
        cases done
        exact Or.inl ⟨rfl, rfl⟩
      · rintro (⟨-, rfl⟩ | ⟨e, v, absent, -⟩)
        · rfl
        · cases absent
  | some e =>
      rw [eval.evalOptional, bind_eq_ok]
      constructor
      · rintro ⟨v, done, made⟩
        cases made
        exact Or.inr ⟨e, v, rfl, rfl, done⟩
      · rintro (⟨absent, -⟩ | ⟨_, v, same, rfl, done⟩)
        · cases absent
        · cases same
          exact ⟨v, done, rfl⟩

/-- The value of what is called, or of what a filter or a test is applied to, and the arguments. -/
def evalCalled (scope : Fields) (function : String) (e : Expr) (args : List Expr)
    (keywords : List (String × Expr)) (spread spreadNamed : Option Expr) : Checked (Value × Arguments) := do
  let v ← e.eval scope
  let values ← eval.evalAll scope args
  let star ← eval.evalOptional scope spread
  let more ← spreadItems star
  let named ← eval.evalFields scope keywords
  let stars ← eval.evalOptional scope spreadNamed
  return (v, ⟨values ++ more, ← spreadFields function named stars⟩)

section Called

variable {function label : String} {args : List Expr} {keywords : List (String × Expr)}
  {spread spreadNamed : Option Expr} {given : Arguments}

theorem parts_of_evalCalled
    (done : evalCalled scope function e args keywords spread spreadNamed = .ok (v, given)) :
    e.eval scope = .ok v ∧ ∃ values more fields star stars, eval.evalAll scope args = .ok values ∧
      eval.evalFields scope keywords = .ok fields ∧ eval.evalOptional scope spread = .ok star ∧
      eval.evalOptional scope spreadNamed = .ok stars ∧ spreadItems star = .ok more ∧
      spreadFields function fields stars = .ok given.named ∧ given.positional = values ++ more := by
  obtain ⟨w, first, done⟩ := bind_eq_ok.mp done
  obtain ⟨values, positional, done⟩ := bind_eq_ok.mp done
  obtain ⟨star, starred, done⟩ := bind_eq_ok.mp done
  obtain ⟨more, spreads, done⟩ := bind_eq_ok.mp done
  obtain ⟨fields, named, done⟩ := bind_eq_ok.mp done
  obtain ⟨stars, starredNamed, done⟩ := bind_eq_ok.mp done
  obtain ⟨all, spreadsNamed, done⟩ := bind_eq_ok.mp done
  cases done
  exact ⟨first, values, more, fields, star, stars, positional, named, starred, starredNamed, spreads,
    spreadsNamed, rfl⟩

theorem eval_call : (Expr.call e args keywords spread spreadNamed).eval scope =
    evalCalled scope callerText e args keywords spread spreadNamed >>= fun c => Call.call c.1 c.2 := by
  rw [eval]
  simp only [evalCalled, bind_assoc, pure_bind]

theorem eval_filter : (Expr.filter e label args keywords spread spreadNamed).eval scope =
    evalCalled scope ("jinja2.filters.do_" ++ label ++ "()") e args keywords spread spreadNamed >>=
      fun c => if Filter.isKnown label then Filter.apply label c.1 c.2.named c.2.positional
        else .error (.unknownFilter label true) := by
  rw [eval]
  simp only [evalCalled, bind_assoc, pure_bind]
  cases Filter.isKnown label <;> rfl

theorem eval_test : (Expr.test e label args keywords spread spreadNamed).eval scope =
    evalCalled scope ("jinja2.tests.test_" ++ label ++ "()") e args keywords spread spreadNamed >>=
      fun c =>
        match Test.call? label c.1 c.2 with
        | some asked => do return .bool ((← asked) || (label == "sameas" && args.any (samePlace e)))
        | none => .error (.unknownTest label true) := by
  rw [eval]
  simp only [evalCalled, bind_assoc, pure_bind]
  rfl

end Called

/-- Does the value of an expression count as true? -/
def holds (scope : Fields) (e : Expr) : Bool :=
  match (do (← e.eval scope).truthy : Checked Bool) with
  | .ok b => b
  | .error _ => false

theorem holds_eq {b : Bool} (done : e.eval scope = .ok v) (asked : v.truthy = .ok b) :
    e.holds scope = b := by
  rw [holds, done]
  show (match v.truthy with
    | .ok b => b
    | .error _ => false) = b
  rw [asked]

theorem sizeOf_lt_of_mem_toList {e? : Option Expr} : ∀ p ∈ e?.toList, sizeOf p < sizeOf e? := by
  intro p member
  cases e? with
  | none => cases member
  | some e =>
      rw [List.mem_singleton.mp member]
      simp

theorem sizeOf_lt_of_mem_fst {entries : List (Expr × Expr)} :
    ∀ p ∈ entries.map (·.1), sizeOf p < sizeOf entries := by
  rw [List.forall_mem_map]
  intro e member
  have below := List.sizeOf_lt_of_mem member
  obtain ⟨key, value⟩ := e
  simp only [Prod.mk.sizeOf_spec] at below
  dsimp only
  omega

theorem sizeOf_lt_of_mem_snd {α : Type} [SizeOf α] {entries : List (α × Expr)} :
    ∀ p ∈ entries.map (·.2), sizeOf p < sizeOf entries := by
  rw [List.forall_mem_map]
  intro e member
  have below := List.sizeOf_lt_of_mem member
  obtain ⟨key, value⟩ := e
  simp only [Prod.mk.sizeOf_spec] at below
  dsimp only
  omega

/-! ### Parts that are evaluated -/

/-- The parts that an evaluation evaluates. Of the parts that the value of another one decides about, only
those that it asks for; of a chain of comparisons, only what the first one compares. -/
def reached (scope : Fields) : Expr → List Expr
  | .tuple items => items
  | .list items => items
  | .dict entries => entries.map (·.1) ++ entries.map (·.2)
  | .unary _ e => [e]
  | .binary _ left right => [left, right]
  | .concat parts => parts
  | .compare first [] => [first]
  | .compare first ((_, e) :: _) => [first, e]
  | .not e => [e]
  | .and left right => if left.holds scope then [left, right] else [left]
  | .or left right => if left.holds scope then [left] else [left, right]
  | .choice asked yes no _ => if asked.holds scope then [asked, yes] else asked :: no.toList
  | .attribute e _ => [e]
  | .item e key => [e, key]
  | .slice e start stop step => e :: (start.toList ++ stop.toList ++ step.toList)
  | .call e args keywords spread spreadNamed => e :: argumentsOf args keywords spread spreadNamed
  | .filter e _ args keywords spread spreadNamed => e :: argumentsOf args keywords spread spreadNamed
  | .test e _ args keywords spread spreadNamed => e :: argumentsOf args keywords spread spreadNamed
  | _ => []

theorem exists_eval_of_one {f : Value → Checked Value} (done : (e.eval scope >>= f) = .ok v) :
    ∀ p ∈ [e], ∃ w, p.eval scope = .ok w := by
  obtain ⟨w, first, -⟩ := bind_eq_ok.mp done
  exact List.forall_mem_singleton.mpr ⟨w, first⟩

theorem exists_eval_of_two {left right : Expr} {f : Value → Value → Checked Value}
    (done : (left.eval scope >>= fun a => right.eval scope >>= f a) = .ok v) :
    ∀ p ∈ [left, right], ∃ w, p.eval scope = .ok w := by
  obtain ⟨a, first, done⟩ := bind_eq_ok.mp done
  exact List.forall_mem_cons.mpr ⟨⟨a, first⟩, exists_eval_of_one done⟩

theorem exists_eval_of_mem {items : List Expr} {values : List Value}
    (done : eval.evalAll scope items = .ok values) : ∀ p ∈ items, ∃ w ∈ values, p.eval scope = .ok w := by
  rw [evalAll_eq_mapM] at done
  exact Checked.exists_of_mem done

theorem exists_eval_of_all {items : List Expr} {f : List Value → Checked Value}
    (done : (eval.evalAll scope items >>= f) = .ok v) : ∀ p ∈ items, ∃ w, p.eval scope = .ok w := by
  obtain ⟨values, made, -⟩ := bind_eq_ok.mp done
  intro p member
  obtain ⟨w, -, made⟩ := exists_eval_of_mem made p member
  exact ⟨w, made⟩

theorem exists_eval_of_entries {entries : List (Expr × Expr)} {filed : Entries}
    (done : eval.evalPairs scope entries = .ok filed) : ∀ e ∈ entries, ∃ f ∈ filed,
      e.1.eval scope = .ok f.1 ∧ e.2.eval scope = .ok f.2 := by
  rw [evalPairs_eq_mapM] at done
  intro e member
  obtain ⟨f, inside, made⟩ := Checked.exists_of_mem done e member
  obtain ⟨key, first, made⟩ := bind_eq_ok.mp made
  obtain ⟨w, second, made⟩ := bind_eq_ok.mp made
  cases made
  exact ⟨_, inside, first, second⟩

theorem exists_eval_of_optional {e? : Option Expr} {v? : Option Value}
    (done : eval.evalOptional scope e? = .ok v?) :
    ∀ p ∈ e?.toList, ∃ w, v? = some w ∧ p.eval scope = .ok w := by
  intro p member
  rcases evalOptional_eq_ok.mp done with ⟨rfl, -⟩ | ⟨e, w, rfl, rfl, made⟩
  · cases member
  · rw [List.mem_singleton.mp member]
    exact ⟨w, rfl, made⟩

theorem exists_eval_of_bound {bound : Option Expr} (done : eval.evalBound scope bound = .ok v) :
    ∀ p ∈ bound.toList, ∃ w, p.eval scope = .ok w := by
  intro p member
  cases bound with
  | none => cases member
  | some e =>
      rw [List.mem_singleton.mp member]
      exact ⟨v, done⟩

theorem exists_eval_of_called {function : String} {args : List Expr} {keywords : List (String × Expr)}
    {spread spreadNamed : Option Expr} {f : Value × Arguments → Checked Value}
    (done : (evalCalled scope function e args keywords spread spreadNamed >>= f) = .ok v) :
    ∀ p ∈ e :: argumentsOf args keywords spread spreadNamed, ∃ w, p.eval scope = .ok w := by
  obtain ⟨⟨callee, given⟩, called, -⟩ := bind_eq_ok.mp done
  obtain ⟨first, values, -, fields, star, stars, positional, named, starred, starredNamed, -⟩ :=
    parts_of_evalCalled called
  rw [evalFields_eq_mapM] at named
  simp only [argumentsOf, List.forall_mem_cons, List.forall_mem_append, List.forall_mem_map]
  refine ⟨⟨callee, first⟩, ⟨⟨?_, ?_⟩, ?_⟩, ?_⟩
  · intro p member
    obtain ⟨w, -, made⟩ := exists_eval_of_mem positional p member
    exact ⟨w, made⟩
  · intro k member
    obtain ⟨f, -, made⟩ := Checked.exists_of_mem named k member
    obtain ⟨w, made, -⟩ := bind_eq_ok.mp made
    exact ⟨w, made⟩
  · intro p member
    obtain ⟨w, -, made⟩ := exists_eval_of_optional starred p member
    exact ⟨w, made⟩
  · intro p member
    obtain ⟨w, -, made⟩ := exists_eval_of_optional starredNamed p member
    exact ⟨w, made⟩

/-- Where an expression has a value, the parts that it reaches have one. -/
theorem exists_eval_of_reached : ∀ {e : Expr} {v : Value}, e.eval scope = .ok v →
    ∀ p ∈ e.reached scope, ∃ w, p.eval scope = .ok w
  | .literal _, _, _ => List.forall_mem_nil _
  | .name _, _, _ => List.forall_mem_nil _
  | .bounds _ _ _, _, _ => List.forall_mem_nil _
  | .tuple items, v, done => exists_eval_of_all (by rwa [eval] at done)
  | .list items, v, done => exists_eval_of_all (by rwa [eval] at done)
  | .concat parts, v, done => exists_eval_of_all (by rwa [eval] at done)
  | .dict entries, v, done => by
    rw [eval] at done
    obtain ⟨filed, made, -⟩ := bind_eq_ok.mp done
    refine List.forall_mem_append.mpr ⟨List.forall_mem_map.mpr ?_, List.forall_mem_map.mpr ?_⟩
    · intro e member
      obtain ⟨f, -, key, -⟩ := exists_eval_of_entries made e member
      exact ⟨f.1, key⟩
    · intro e member
      obtain ⟨f, -, -, value⟩ := exists_eval_of_entries made e member
      exact ⟨f.2, value⟩
  | .unary op e, v, done => exists_eval_of_one (by rwa [eval] at done)
  | .not e, v, done => exists_eval_of_one (by rwa [eval] at done)
  | .attribute e label, v, done => exists_eval_of_one (by rwa [eval] at done)
  | .binary op left right, v, done => exists_eval_of_two (by rwa [eval] at done)
  | .item e key, v, done => exists_eval_of_two (by rwa [eval] at done)
  | .compare first [], v, done => exists_eval_of_one (by rwa [eval] at done)
  | .compare first ((op, e) :: rest), v, done => by
    rw [eval] at done
    obtain ⟨w, made, done⟩ := bind_eq_ok.mp done
    obtain ⟨b, chained, -⟩ := bind_eq_ok.mp done
    rw [eval.evalChain, chainOf] at chained
    obtain ⟨u, next, -⟩ := bind_eq_ok.mp chained
    exact List.forall_mem_cons.mpr ⟨⟨w, made⟩, List.forall_mem_singleton.mpr ⟨u, next⟩⟩
  | .and left right, v, done => by
    rw [eval] at done
    obtain ⟨w, first, done⟩ := bind_eq_ok.mp done
    obtain ⟨b, asked, done⟩ := bind_eq_ok.mp done
    rw [reached, holds_eq first asked]
    cases b with
    | true => exact List.forall_mem_cons.mpr ⟨⟨w, first⟩, List.forall_mem_singleton.mpr ⟨v, done⟩⟩
    | false => exact List.forall_mem_singleton.mpr ⟨w, first⟩
  | .or left right, v, done => by
    rw [eval] at done
    obtain ⟨w, first, done⟩ := bind_eq_ok.mp done
    obtain ⟨b, asked, done⟩ := bind_eq_ok.mp done
    rw [reached, holds_eq first asked]
    cases b with
    | true => exact List.forall_mem_singleton.mpr ⟨w, first⟩
    | false => exact List.forall_mem_cons.mpr ⟨⟨w, first⟩, List.forall_mem_singleton.mpr ⟨v, done⟩⟩
  | .choice asked yes no line, v, done => by
    rw [eval.eq_def] at done
    obtain ⟨w, first, done⟩ := bind_eq_ok.mp done
    obtain ⟨b, answered, done⟩ := bind_eq_ok.mp done
    rw [reached, holds_eq first answered]
    cases b with
    | true => exact List.forall_mem_cons.mpr ⟨⟨w, first⟩, List.forall_mem_singleton.mpr ⟨v, done⟩⟩
    | false =>
        refine List.forall_mem_cons.mpr ⟨⟨w, first⟩, ?_⟩
        cases no with
        | none => exact List.forall_mem_nil _
        | some e => exact List.forall_mem_singleton.mpr ⟨v, done⟩
  | .slice e start stop step, v, done => by
    rw [eval] at done
    obtain ⟨w, first, done⟩ := bind_eq_ok.mp done
    obtain ⟨a, atStart, done⟩ := bind_eq_ok.mp done
    obtain ⟨b, atStop, done⟩ := bind_eq_ok.mp done
    obtain ⟨c, atStep, -⟩ := bind_eq_ok.mp done
    refine List.forall_mem_cons.mpr ⟨⟨w, first⟩, ?_⟩
    simp only [List.forall_mem_append]
    exact ⟨⟨exists_eval_of_bound atStart, exists_eval_of_bound atStop⟩, exists_eval_of_bound atStep⟩
  | .call _ _ _ _ _, v, done => exists_eval_of_called (by rwa [eval_call] at done)
  | .filter _ _ _ _ _ _, v, done => exists_eval_of_called (by rwa [eval_filter] at done)
  | .test _ _ _ _ _ _, v, done => exists_eval_of_called (by rwa [eval_test] at done)

/-- Where an expression has a value, so has everything that its evaluation comes to. -/
theorem exists_eval_of_path (done : e.eval scope = .ok v) {p : Expr}
    (path : ReflTransGen (fun a b => b ∈ a.reached scope) e p) : ∃ w, p.eval scope = .ok w := by
  induction path with
  | refl => exact ⟨v, done⟩
  | tail _ member ih =>
      obtain ⟨w, made⟩ := ih
      exact exists_eval_of_reached made _ member

end Expr

end Stepwise.Script
