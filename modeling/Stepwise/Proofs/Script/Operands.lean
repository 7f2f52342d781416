import Stepwise.Proofs.Script.Parts
import Stepwise.Proofs.Value.Absence

/-!
Absences in scripts. An evaluation works with the values of some parts of an expression, and where such a
value is a strict absence it comes to a fault.
-/

namespace Stepwise.Script

open Value (Refuses Usable)

variable {scope : Fields} {v w : Value}

/-! ### Operations -/

theorem refuses_binary_left {op : BinaryOp} (w : Value) : Refuses fun v => op.apply v w := by
  cases op with
  | add => exact Value.refuses_add_left w
  | sub => exact Value.refuses_sub_left w
  | mul => exact Value.refuses_mul_left w
  | div => exact Value.refuses_onNumbers_left _ _ _ w
  | floorDiv => exact Value.refuses_onNumbers_left _ _ _ w
  | mod => exact Value.refuses_mod_left w
  | pow => exact Value.refuses_onNumbers_left _ _ _ w

/-- A text may hold no directive for what it is filled with. -/
theorem refuses_binary_right {op : BinaryOp} (number : op ≠ .mod) (v : Value) :
    Refuses fun w => op.apply v w := by
  cases op with
  | add => exact Value.refuses_add_right v
  | sub => exact Value.refuses_sub_right v
  | mul => exact Value.refuses_mul_right v
  | div => exact Value.refuses_onNumbers_right _ _ _ v
  | floorDiv => exact Value.refuses_onNumbers_right _ _ _ v
  | mod => exact absurd rfl number
  | pow => exact Value.refuses_onNumbers_right _ _ _ v

theorem refuses_power_left {left right : Expr} (w : Value) : Refuses fun v => powerOf left right v w := by
  intro a _
  unfold powerOf
  split
  · exact ⟨a.fault, rfl⟩
  · exact ⟨a.fault, rfl⟩

theorem refuses_power_right {left right : Expr} (v : Value) : Refuses fun w => powerOf left right v w := by
  intro a strict
  unfold powerOf
  split
  · cases turned : v.negate with
    | error fault => exact ⟨fault, rfl⟩
    | ok u =>
        exact ((Value.refuses_onNumbers_right _ _ _ u).bind fun _ power => power.negate) a strict
  · exact Value.refuses_onNumbers_right _ _ _ v a strict

theorem refuses_unary (op : UnaryOp) : Refuses op.apply := by
  cases op with
  | negate => exact Value.refuses_signed _ _ _
  | keep => exact Value.refuses_signed _ _ _

/-- Of what a comparison compares with one another. -/
def ComparisonOp.compares : ComparisonOp → Bool
  | .member | .notMember => false
  | _ => true

theorem usable_of_comparison {op : ComparisonOp} {b : Bool} (done : op.apply v w = .ok b) :
    w.Usable ∧ (op.compares = true → v.Usable) := by
  cases op with
  | order test =>
      exact ⟨(Value.refuses_ordered_right test v).usable done,
        fun _ => (Value.refuses_ordered_left test w).usable done⟩
  | eq =>
      exact ⟨(Value.refuses_equal_right v).usable done, fun _ => (Value.refuses_equal_left w).usable done⟩
  | ne =>
      obtain ⟨same, asked, -⟩ := bind_eq_ok.mp done
      exact ⟨(Value.refuses_equal_right v).usable asked,
        fun _ => (Value.refuses_equal_left w).usable asked⟩
  | member => exact ⟨(Value.refuses_contains v).usable done, by rintro ⟨⟩⟩
  | notMember =>
      obtain ⟨inside, asked, -⟩ := bind_eq_ok.mp done
      exact ⟨(Value.refuses_contains v).usable asked, by rintro ⟨⟩⟩

theorem usable_of_joinTexts {values : List Value} (done : joinTexts values = .ok w) :
    ∀ v ∈ values, v.Usable := by
  obtain ⟨texts, shown, -⟩ := bind_eq_ok.mp done
  intro v member
  obtain ⟨s, -, made⟩ := Checked.exists_of_mem shown v member
  exact Value.refuses_shown.usable made

theorem usable_of_dictOf {entries : Entries} (done : dictOf entries = .ok w) :
    ∀ e ∈ entries, e.1.Usable := by
  obtain ⟨filed, put, -⟩ := bind_eq_ok.mp done
  intro e member
  obtain ⟨before, after, step⟩ := Checked.exists_of_mem_foldlM put e member
  dsimp only at step
  obtain ⟨_, sought, -⟩ := bind_eq_ok.mp step
  exact Value.refuses_checkKey.usable sought

theorem usable_of_spreadItems {values : List Value} (done : spreadItems (some v) = .ok values) :
    v.Usable := by
  cases read : v.items with
  | error fault =>
      rw [spreadItems, read] at done
      split at done
      · cases done
      · cases done
      · cases done
      · rename_i same
        cases same
  | ok found => exact Value.refuses_items.usable read

theorem usable_of_spreadFields {function : String} {named fields : Fields}
    (done : spreadFields function named (some v) = .ok fields) : v.Usable := by
  rintro a rfl
  cases done

namespace Expr

/-- The parts whose values an evaluation works with. -/
def operands : Expr → List Expr
  | .dict entries => entries.map (·.1)
  | .unary _ e => [e]
  | .binary .mod left _ => [left]
  | .binary _ left right => [left, right]
  | .concat parts => parts
  | .compare first ((op, e) :: _) => if op.compares then [first, e] else [e]
  | .not e => [e]
  | .and left _ => [left]
  | .or left _ => [left]
  | .choice asked _ _ _ => [asked]
  | .attribute e label => if Value.commonReserved.contains label then [] else [e]
  | .item e _ => [e]
  | .slice e _ _ _ => [e]
  | .call e _ _ spread spreadNamed => e :: (spread.toList ++ spreadNamed.toList)
  | .filter _ _ _ _ spread spreadNamed => spread.toList ++ spreadNamed.toList
  | .test _ _ _ _ spread spreadNamed => spread.toList ++ spreadNamed.toList
  | _ => []

theorem usable_of_one {f : Value → Checked Value} (refuses : Refuses f) {e : Expr}
    (done : (e.eval scope >>= f) = .ok v) : ∀ p ∈ [e], ∃ w, p.eval scope = .ok w ∧ w.Usable := by
  obtain ⟨w, first, done⟩ := bind_eq_ok.mp done
  exact List.forall_mem_singleton.mpr ⟨w, first, refuses.usable done⟩

theorem usable_of_starred {function : String} {callee : Expr} {args : List Expr}
    {keywords : List (String × Expr)} {spread spreadNamed : Option Expr} {given : Arguments}
    (done : evalCalled scope function callee args keywords spread spreadNamed = .ok (v, given)) :
    ∀ p ∈ spread.toList ++ spreadNamed.toList, ∃ w, p.eval scope = .ok w ∧ w.Usable := by
  obtain ⟨-, values, more, fields, star, stars, -, -, starred, starredNamed, spreads, spreadsNamed, -⟩ :=
    parts_of_evalCalled done
  rw [List.forall_mem_append]
  constructor
  · intro p member
    obtain ⟨w, rfl, made⟩ := exists_eval_of_optional starred p member
    exact ⟨w, made, usable_of_spreadItems spreads⟩
  · intro p member
    obtain ⟨w, rfl, made⟩ := exists_eval_of_optional starredNamed p member
    exact ⟨w, made, usable_of_spreadFields spreadsNamed⟩

theorem usable_of_binary {op : BinaryOp} {left right : Expr}
    (done : (Expr.binary op left right).eval scope = .ok v) :
    ∀ p ∈ (Expr.binary op left right).operands, ∃ w, p.eval scope = .ok w ∧ w.Usable := by
  rw [eval] at done
  obtain ⟨a, first, done⟩ := bind_eq_ok.mp done
  obtain ⟨b, second, done⟩ := bind_eq_ok.mp done
  have both (one : a.Usable) (other : b.Usable) :
      ∀ p ∈ [left, right], ∃ w, p.eval scope = .ok w ∧ w.Usable :=
    List.forall_mem_cons.mpr ⟨⟨a, first, one⟩, List.forall_mem_singleton.mpr ⟨b, second, other⟩⟩
  have number (other : op ≠ .mod) (applied : op.apply a b = .ok v) :
      ∀ p ∈ [left, right], ∃ w, p.eval scope = .ok w ∧ w.Usable :=
    both ((refuses_binary_left b).usable applied) ((refuses_binary_right other a).usable applied)
  cases op with
  | mod =>
      exact List.forall_mem_singleton.mpr ⟨a, first, (Value.refuses_mod_left b).usable done⟩
  | pow => exact both ((refuses_power_left b).usable done) ((refuses_power_right a).usable done)
  | add => exact number (by rintro ⟨⟩) done
  | sub => exact number (by rintro ⟨⟩) done
  | mul => exact number (by rintro ⟨⟩) done
  | div => exact number (by rintro ⟨⟩) done
  | floorDiv => exact number (by rintro ⟨⟩) done

/-- Where an expression has a value, none of the values that it works with is a strict absence. -/
theorem usable_of_operands : ∀ {e : Expr} {v : Value}, e.eval scope = .ok v →
    ∀ p ∈ e.operands, ∃ w, p.eval scope = .ok w ∧ w.Usable
  | .literal _, _, _ => List.forall_mem_nil _
  | .name _, _, _ => List.forall_mem_nil _
  | .tuple _, _, _ => List.forall_mem_nil _
  | .list _, _, _ => List.forall_mem_nil _
  | .bounds _ _ _, _, _ => List.forall_mem_nil _
  | .compare _ [], _, _ => List.forall_mem_nil _
  | .dict entries, v, done => by
    rw [eval] at done
    obtain ⟨filed, made, done⟩ := bind_eq_ok.mp done
    refine List.forall_mem_map.mpr fun e member => ?_
    obtain ⟨f, inside, key, -⟩ := exists_eval_of_entries made e member
    exact ⟨f.1, key, usable_of_dictOf done f inside⟩
  | .concat parts, v, done => by
    rw [eval] at done
    obtain ⟨values, made, done⟩ := bind_eq_ok.mp done
    intro p member
    obtain ⟨w, inside, made⟩ := exists_eval_of_mem made p member
    exact ⟨w, made, usable_of_joinTexts done w inside⟩
  | .unary op e, v, done => usable_of_one (refuses_unary op) (by rwa [eval] at done)
  | .binary op left right, v, done => usable_of_binary done
  | .compare first ((op, e) :: rest), v, done => by
    rw [eval] at done
    obtain ⟨w, made, done⟩ := bind_eq_ok.mp done
    obtain ⟨b, chained, -⟩ := bind_eq_ok.mp done
    rw [eval.evalChain, chainOf] at chained
    obtain ⟨u, next, chained⟩ := bind_eq_ok.mp chained
    obtain ⟨holds, applied, -⟩ := bind_eq_ok.mp chained
    obtain ⟨second, both⟩ := usable_of_comparison applied
    rw [operands]
    split
    · rename_i compares
      exact List.forall_mem_cons.mpr
        ⟨⟨w, made, both compares⟩, List.forall_mem_singleton.mpr ⟨u, next, second⟩⟩
    · exact List.forall_mem_singleton.mpr ⟨u, next, second⟩
  | .not e, v, done => usable_of_one (Value.refuses_truthy.bind _) (by rwa [eval] at done)
  | .and left right, v, done => usable_of_one (Value.refuses_truthy.bind _) (by rwa [eval] at done)
  | .or left right, v, done => usable_of_one (Value.refuses_truthy.bind _) (by rwa [eval] at done)
  | .choice asked yes no line, v, done =>
    usable_of_one (Value.refuses_truthy.bind _) (by rwa [eval.eq_def] at done)
  | .attribute e label, v, done => by
    rw [operands]
    split
    · exact List.forall_mem_nil _
    · rename_i known
      rw [List.contains_iff_mem] at known
      exact usable_of_one (Value.refuses_getAttribute known) (by rwa [eval] at done)
  | .item e key, v, done => by
    rw [eval] at done
    obtain ⟨w, first, done⟩ := bind_eq_ok.mp done
    obtain ⟨k, -, done⟩ := bind_eq_ok.mp done
    exact List.forall_mem_singleton.mpr ⟨w, first, (Value.refuses_getItem k).usable done⟩
  | .slice e start stop step, v, done => by
    rw [eval] at done
    obtain ⟨w, first, done⟩ := bind_eq_ok.mp done
    obtain ⟨a, -, done⟩ := bind_eq_ok.mp done
    obtain ⟨b, -, done⟩ := bind_eq_ok.mp done
    obtain ⟨c, -, done⟩ := bind_eq_ok.mp done
    exact List.forall_mem_singleton.mpr ⟨w, first, (Value.refuses_slice a b c).usable done⟩
  | .call e _ _ _ _, v, done => by
    rw [eval_call] at done
    obtain ⟨⟨callee, given⟩, called, done⟩ := bind_eq_ok.mp done
    obtain ⟨first, -⟩ := parts_of_evalCalled called
    have usable : callee.Usable := by
      rintro a rfl
      cases done
    exact List.forall_mem_cons.mpr ⟨⟨callee, first, usable⟩, usable_of_starred called⟩
  | .filter _ _ _ _ _ _, v, done => by
    rw [eval_filter] at done
    obtain ⟨⟨callee, given⟩, called, -⟩ := bind_eq_ok.mp done
    exact usable_of_starred called
  | .test _ _ _ _ _ _, v, done => by
    rw [eval_test] at done
    obtain ⟨⟨callee, given⟩, called, -⟩ := bind_eq_ok.mp done
    exact usable_of_starred called

end Expr

end Stepwise.Script
