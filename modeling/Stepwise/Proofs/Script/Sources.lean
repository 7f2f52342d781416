import Stepwise.Proofs.Script.Library
import Stepwise.Proofs.Script.Parts

/-!
Where values come from that are no plain data. An expression hands the values of some parts on, as they
are or inside its own value. In a scope of plain data few kinds of expressions give anything else by
themselves; all others make plain data of plain data.
-/

namespace Stepwise.Script

open Relation (ReflTransGen)
open Value (Data)

variable {scope : Fields} {v : Value}

/-! ### Arguments -/

namespace Expr

theorem data_of_evalAll {items : List Expr} {values : List Value}
    (below : ∀ p ∈ items, ∀ w, p.eval scope = .ok w → w.Data)
    (done : eval.evalAll scope items = .ok values) : ∀ v ∈ values, v.Data := by
  rw [evalAll_eq_mapM] at done
  intro v member
  obtain ⟨p, inside, made⟩ := Checked.exists_of_mapM done v member
  exact below p inside v made

theorem data_of_evalPairs {entries : List (Expr × Expr)} {filed : Entries}
    (keys : ∀ p ∈ entries.map (·.1), ∀ w, p.eval scope = .ok w → w.Data)
    (values : ∀ p ∈ entries.map (·.2), ∀ w, p.eval scope = .ok w → w.Data)
    (done : eval.evalPairs scope entries = .ok filed) : ∀ f ∈ filed, f.1.Data ∧ f.2.Data := by
  rw [evalPairs_eq_mapM] at done
  rw [List.forall_mem_map] at keys values
  intro f member
  obtain ⟨p, inside, made⟩ := Checked.exists_of_mapM done f member
  obtain ⟨key, first, made⟩ := bind_eq_ok.mp made
  obtain ⟨v, second, made⟩ := bind_eq_ok.mp made
  cases made
  exact ⟨keys p inside key first, values p inside v second⟩

theorem data_of_evalFields {keywords : List (String × Expr)} {fields : Fields}
    (below : ∀ p ∈ keywords.map (·.2), ∀ w, p.eval scope = .ok w → w.Data)
    (done : eval.evalFields scope keywords = .ok fields) : ∀ f ∈ fields, f.2.Data := by
  rw [evalFields_eq_mapM] at done
  rw [List.forall_mem_map] at below
  intro f member
  obtain ⟨p, inside, made⟩ := Checked.exists_of_mapM done f member
  obtain ⟨v, first, made⟩ := bind_eq_ok.mp made
  cases made
  exact below p inside v first

/-- The value of an optional expression is plain data where that of the expression is. -/
theorem data_of_evalOptional {e? : Option Expr} {v? : Option Value}
    (below : ∀ p ∈ e?.toList, ∀ w, p.eval scope = .ok w → w.Data)
    (done : eval.evalOptional scope e? = .ok v?) : ∀ v ∈ v?, v.Data := by
  rcases evalOptional_eq_ok.mp done with ⟨-, rfl⟩ | ⟨e, w, rfl, rfl, made⟩
  · exact fun v absent => nomatch absent
  · intro v same
    cases same
    exact below e List.mem_cons_self w made

end Expr

theorem data_of_spreadItems {v? : Option Value} {values : List Value} (data : ∀ v ∈ v?, v.Data)
    (done : spreadItems v? = .ok values) : ∀ v ∈ values, v.Data := by
  unfold spreadItems at done
  split at done
  · cases done
    exact List.forall_mem_nil _
  · split at done
    · cases done
    · cases done
    · cases done
    · rename_i read
      cases done
      exact (data _ rfl).of_items read

theorem data_of_spreadFields {function : String} {named fields : Fields} {v? : Option Value}
    (data : ∀ v ∈ v?, v.Data) (given : ∀ f ∈ named, f.2.Data)
    (done : spreadFields function named v? = .ok fields) : ∀ f ∈ fields, f.2.Data := by
  unfold spreadFields at done
  split at done
  · cases done
    exact given
  · rename_i entries
    refine Checked.foldlM_induction (P := fun fields => ∀ f ∈ fields, f.2.Data) done given ?_
    intro e member before after held step
    dsimp only at step
    split at step
    · cases step
    · split at step
      · cases step
      · cases step
        refine List.forall_mem_append.mpr ⟨held, List.forall_mem_singleton.mpr ?_⟩
        cases data _ rfl with
        | dict keys all => exact all e member
  · cases done
  · cases done

theorem data_of_dictOf {entries : Entries} (data : ∀ e ∈ entries, e.1.Data ∧ e.2.Data)
    (done : dictOf entries = .ok v) : v.Data := by
  obtain ⟨filed, put, done⟩ := bind_eq_ok.mp done
  cases done
  refine Checked.foldlM_induction (P := fun entries => (Value.dict entries).Data) put
    (.dict (List.forall_mem_nil _) (List.forall_mem_nil _)) ?_
  intro e member before after held step
  obtain ⟨-, -, step⟩ := bind_eq_ok.mp step
  cases step
  exact held.put (data e member).1 (data e member).2

/-! ### Calls of the functions of scripts -/

/-- In a scope of plain data the name of a function stands for plain data or for the function. -/
theorem resolve_of_known {name : String} (inScope : ∀ f ∈ scope, f.2.Data)
    (known : name ∈ Library.names) :
    (resolve scope name).Data ∨ resolve scope name = .routine name := by
  have apart : (name == "self") = false := by
    rw [beq_eq_false_iff_ne]
    rintro rfl
    exact absurd known (by decide)
  rw [resolve, apart, if_neg Bool.false_ne_true]
  cases found : scope.find? (·.1 == name) with
  | some f => exact Or.inl (inScope f (List.mem_of_find?_eq_some found))
  | none =>
      refine Or.inr ?_
      simp only [Library.names, List.mem_cons, List.not_mem_nil, or_false] at known
      rcases known with rfl | rfl | rfl | rfl | rfl | rfl <;> rfl

theorem data_of_call {name : String} {args : Arguments} (inScope : ∀ f ∈ scope, f.2.Data)
    (known : name ∈ Library.names) (given : args.Data)
    (done : Call.call (resolve scope name) args = .ok v) : v.Data := by
  rcases resolve_of_known inScope known with data | function
  · -- Plain data cannot be called.
    generalize resolve scope name = callee at data done
    cases data <;> cases done
  · rw [function] at done
    obtain ⟨result, called, same⟩ : ∃ result, Library.call? name args = some result ∧
        Call.call (.routine name) args = result := by
      simp only [Library.names, List.mem_cons, List.not_mem_nil, or_false] at known
      rcases known with rfl | rfl | rfl | rfl | rfl | rfl <;> exact ⟨_, rfl, rfl⟩
    exact Library.data_of_call given called (same.symm.trans done)

/-! ### Values that are handed on -/

namespace Expr

/-- The name of a function of scripts. -/
def isFunction : Expr → Bool
  | .name s => Library.names.contains s
  | _ => false

/-- The parts whose values become the value of an expression, or go into it. -/
def handed (scope : Fields) : Expr → List Expr
  | .tuple items => items
  | .list items => items
  | .dict entries => entries.map (·.1) ++ entries.map (·.2)
  | .binary .add left right => [left, right]
  | .binary .sub left right => [left, right]
  | .binary .mul left right => [left, right]
  | .and left right => if left.holds scope then [right] else [left]
  | .or left right => if left.holds scope then [left] else [right]
  | .choice asked yes no _ => if asked.holds scope then [yes] else no.toList
  | .slice e _ _ _ => [e]
  | .call e args keywords spread spreadNamed =>
    if e.isFunction then argumentsOf args keywords spread spreadNamed else []
  | _ => []

/-- Expressions whose value can be more than plain data whatever the values of their parts are:
constants, names that are not in scope, powers, attributes, items, calls of anything but the functions
of scripts, filters, and choices that have nothing to choose. -/
def IsSource (scope : Fields) : Expr → Prop
  | .literal _ => True
  | .name s => s = "self" ∨ ∀ f ∈ scope, f.1 ≠ s
  | .binary .pow _ _ => True
  | .attribute _ _ => True
  | .item _ _ => True
  | .call e _ _ _ _ => e.isFunction = false
  | .filter _ _ _ _ _ _ => True
  | .choice asked _ none _ => asked.holds scope = false
  | _ => False

theorem data_of_resolve {name : String} (inScope : ∀ f ∈ scope, f.2.Data) (apart : name ≠ "self")
    (bound : ∃ f ∈ scope, f.1 = name) : (resolve scope name).Data := by
  rw [resolve, if_neg (by simpa using apart)]
  cases found : scope.find? (·.1 == name) with
  | some f => exact inScope f (List.mem_of_find?_eq_some found)
  | none =>
      obtain ⟨f, member, named⟩ := bound
      rw [List.find?_eq_none] at found
      exact absurd (beq_iff_eq.mpr named) (found f member)

theorem data_of_evalCalled {function : String} {callee : Expr} {args : List Expr}
    {keywords : List (String × Expr)} {spread spreadNamed : Option Expr} {given : Arguments}
    (below : ∀ p ∈ argumentsOf args keywords spread spreadNamed, ∀ w, p.eval scope = .ok w → w.Data)
    (done : evalCalled scope function callee args keywords spread spreadNamed = .ok (v, given)) :
    given.Data := by
  obtain ⟨-, values, more, fields, star, stars, positional, named, starred, starredNamed, spreads,
    spreadsNamed, all⟩ := parts_of_evalCalled done
  simp only [argumentsOf, List.forall_mem_append] at below
  obtain ⟨⟨⟨ofArgs, ofKeywords⟩, ofSpread⟩, ofSpreadNamed⟩ := below
  constructor
  · rw [all]
    have ofMore := data_of_spreadItems (data_of_evalOptional ofSpread starred) spreads
    exact List.forall_mem_append.mpr ⟨data_of_evalAll ofArgs positional, ofMore⟩
  · exact data_of_spreadFields (data_of_evalOptional ofSpreadNamed starredNamed)
      (data_of_evalFields ofKeywords named) spreadsNamed

theorem data_of_binary {op : BinaryOp} {left right : Expr} (real : op ≠ .pow)
    (below : ∀ p ∈ (Expr.binary op left right).handed scope, ∀ w, p.eval scope = .ok w → w.Data)
    (done : (Expr.binary op left right).eval scope = .ok v) : v.Data := by
  rw [eval] at done
  obtain ⟨a, first, done⟩ := bind_eq_ok.mp done
  obtain ⟨b, second, done⟩ := bind_eq_ok.mp done
  have both (joined : (Expr.binary op left right).handed scope = [left, right]) : a.Data ∧ b.Data := by
    rw [joined, List.forall_mem_cons, List.forall_mem_singleton] at below
    exact ⟨below.1 a first, below.2 b second⟩
  cases op with
  | add => exact (both rfl).1.add (both rfl).2 done
  | sub => exact (both rfl).1.sub (both rfl).2 done
  | mul => exact (both rfl).1.mul (both rfl).2 done
  | div => exact Value.data_of_div done
  | floorDiv => exact Value.data_of_floorDiv done
  | mod => exact Value.data_of_mod done
  | pow => exact absurd rfl real

/-- The value of an expression that is no source is plain data where the values handed to it are. -/
theorem data_of_handed (inScope : ∀ f ∈ scope, f.2.Data) : ∀ {e : Expr} {v : Value},
    ¬e.IsSource scope → (∀ p ∈ e.handed scope, ∀ w, p.eval scope = .ok w → w.Data) →
      e.eval scope = .ok v → v.Data
  | .literal _, _, plain, _, _ => absurd trivial plain
  | .attribute _ _, _, plain, _, _ => absurd trivial plain
  | .item _ _, _, plain, _, _ => absurd trivial plain
  | .filter _ _ _ _ _ _, _, plain, _, _ => absurd trivial plain
  | .name s, v, plain, _, done => by
    rw [eval] at done
    cases done
    have bound : s ≠ "self" ∧ ∃ f ∈ scope, f.1 = s := by
      simpa [IsSource] using plain
    exact data_of_resolve inScope bound.1 bound.2
  | .tuple items, v, _, below, done => by
    rw [eval] at done
    obtain ⟨values, made, done⟩ := bind_eq_ok.mp done
    cases done
    exact .tuple (data_of_evalAll below made)
  | .list items, v, _, below, done => by
    rw [eval] at done
    obtain ⟨values, made, done⟩ := bind_eq_ok.mp done
    cases done
    exact .list (data_of_evalAll below made)
  | .dict entries, v, _, below, done => by
    rw [eval] at done
    obtain ⟨filed, made, done⟩ := bind_eq_ok.mp done
    obtain ⟨keys, values⟩ := List.forall_mem_append.mp below
    exact data_of_dictOf (data_of_evalPairs keys values made) done
  | .unary op e, v, _, _, done => by
    rw [eval] at done
    obtain ⟨w, -, done⟩ := bind_eq_ok.mp done
    cases op with
    | negate => exact Value.data_of_signed done
    | keep => exact Value.data_of_signed done
  | .binary op left right, v, plain, below, done => by
    have real : op ≠ .pow := by
      rintro rfl
      exact plain trivial
    exact data_of_binary real below done
  | .concat parts, v, _, _, done => by
    rw [eval] at done
    obtain ⟨values, -, done⟩ := bind_eq_ok.mp done
    obtain ⟨texts, -, done⟩ := bind_eq_ok.mp done
    cases done
    exact .text _
  | .compare first rest, v, _, _, done => by
    rw [eval] at done
    obtain ⟨w, -, done⟩ := bind_eq_ok.mp done
    obtain ⟨b, -, done⟩ := bind_eq_ok.mp done
    cases done
    exact .bool b
  | .not e, v, _, _, done => by
    rw [eval] at done
    obtain ⟨w, -, done⟩ := bind_eq_ok.mp done
    obtain ⟨b, -, done⟩ := bind_eq_ok.mp done
    cases done
    exact .bool _
  | .and left right, v, _, below, done => by
    rw [eval] at done
    obtain ⟨w, first, done⟩ := bind_eq_ok.mp done
    obtain ⟨b, asked, done⟩ := bind_eq_ok.mp done
    rw [handed, holds_eq first asked] at below
    cases b with
    | true => exact below right List.mem_cons_self v done
    | false =>
        cases done
        exact below left List.mem_cons_self _ first
  | .or left right, v, _, below, done => by
    rw [eval] at done
    obtain ⟨w, first, done⟩ := bind_eq_ok.mp done
    obtain ⟨b, asked, done⟩ := bind_eq_ok.mp done
    rw [handed, holds_eq first asked] at below
    cases b with
    | true =>
        cases done
        exact below left List.mem_cons_self _ first
    | false => exact below right List.mem_cons_self v done
  | .choice asked yes no line, v, plain, below, done => by
    rw [eval.eq_def] at done
    obtain ⟨w, first, done⟩ := bind_eq_ok.mp done
    obtain ⟨b, answered, done⟩ := bind_eq_ok.mp done
    rw [handed, holds_eq first answered] at below
    cases b with
    | true => exact below yes List.mem_cons_self v done
    | false =>
        cases no with
        | none => exact absurd (holds_eq first answered) plain
        | some e => exact below e List.mem_cons_self v done
  | .slice e start stop step, v, _, below, done => by
    rw [eval] at done
    obtain ⟨w, first, done⟩ := bind_eq_ok.mp done
    obtain ⟨a, -, done⟩ := bind_eq_ok.mp done
    obtain ⟨b, -, done⟩ := bind_eq_ok.mp done
    obtain ⟨c, -, done⟩ := bind_eq_ok.mp done
    exact (below e List.mem_cons_self w first).slice done
  | .bounds _ _ _, v, _, _, done => by
    rw [eval] at done
    cases done
  | .call (.name s) args keywords spread spreadNamed, v, plain, below, done => by
    have function : isFunction (.name s) = true := Bool.not_eq_false _ ▸ plain
    rw [handed, if_pos function] at below
    rw [eval_call] at done
    obtain ⟨⟨callee, given⟩, called, done⟩ := bind_eq_ok.mp done
    obtain ⟨found, -⟩ := parts_of_evalCalled called
    rw [eval] at found
    cases found
    exact data_of_call inScope (List.contains_iff_mem.mp function) (data_of_evalCalled below called) done
  | .test _ _ _ _ _ _, v, _, _, done => by
    rw [eval_test] at done
    obtain ⟨⟨callee, given⟩, -, done⟩ := bind_eq_ok.mp done
    dsimp only at done
    split at done
    · obtain ⟨b, -, done⟩ := bind_eq_ok.mp done
      cases done
      exact .bool _
    · cases done

theorem sizeOf_lt_of_mem_handed : ∀ {e : Expr}, ∀ p ∈ e.handed scope, sizeOf p < sizeOf e
  | .tuple items, p, member => by
    have below : sizeOf p < sizeOf items := List.sizeOf_lt_of_mem member
    simp only [tuple.sizeOf_spec]
    omega
  | .list items, p, member => by
    have below : sizeOf p < sizeOf items := List.sizeOf_lt_of_mem member
    simp only [list.sizeOf_spec]
    omega
  | .dict entries, p, member => by
    simp only [dict.sizeOf_spec]
    rcases List.mem_append.mp member with key | value
    · have below := sizeOf_lt_of_mem_fst p key
      omega
    · have below := sizeOf_lt_of_mem_snd p value
      omega
  | .binary op left right, p, member => by
    have either : p ∈ [left, right] := by
      cases op with
      | add => exact member
      | sub => exact member
      | mul => exact member
      | _ => cases member
    simp only [binary.sizeOf_spec]
    rcases List.mem_pair.mp either with rfl | rfl
    · omega
    · omega
  | .and left right, p, member => by
    simp only [handed] at member
    simp only [and.sizeOf_spec]
    split at member <;> (cases List.mem_singleton.mp member; omega)
  | .or left right, p, member => by
    simp only [handed] at member
    simp only [or.sizeOf_spec]
    split at member <;> (cases List.mem_singleton.mp member; omega)
  | .choice asked yes no line, p, member => by
    simp only [handed] at member
    simp only [choice.sizeOf_spec]
    split at member
    · cases List.mem_singleton.mp member
      omega
    · have below := sizeOf_lt_of_mem_toList p member
      omega
  | .slice e start stop step, p, member => by
    cases List.mem_singleton.mp member
    simp only [slice.sizeOf_spec]
    omega
  | .call e args keywords spread spreadNamed, p, member => by
    simp only [handed] at member
    simp only [call.sizeOf_spec]
    split at member
    · simp only [argumentsOf, List.mem_append] at member
      rcases member with ((arg | keyword) | star) | stars
      · have below := List.sizeOf_lt_of_mem arg
        omega
      · have below := sizeOf_lt_of_mem_snd p keyword
        omega
      · have below := sizeOf_lt_of_mem_toList p star
        omega
      · have below := sizeOf_lt_of_mem_toList p stars
        omega
    · cases member

/-- A value is plain data where the sources that it is handed on from give plain data. -/
theorem data_of_eval (inScope : ∀ f ∈ scope, f.2.Data) (e : Expr) {v : Value}
    (sources : ∀ p, ReflTransGen (fun a b => b ∈ a.handed scope) e p → p.IsSource scope →
      ∀ w, p.eval scope = .ok w → w.Data) (done : e.eval scope = .ok v) : v.Data := by
  -- What an expression hands on is smaller than it, and a source further down is one further down of it.
  by_cases source : e.IsSource scope
  · exact sources e .refl source v done
  · refine data_of_handed inScope source ?_ done
    intro p member w made
    exact data_of_eval inScope p (fun q path => sources q (.head member path)) made
termination_by sizeOf e
decreasing_by exact sizeOf_lt_of_mem_handed p member

end Expr

end Stepwise.Script
