import Stepwise.Proofs.Checked
import Stepwise.Script.Expr.Grammar

/-!
Reading one expression after the other. Where a primary expression is followed by nothing that goes on
with it, it is all that is read, on every level of the grammar; and so a mapping of one such expression
to another is read as it is written.
-/

namespace Stepwise.Script.Grammar

variable {rest more : List Token} {failure : Option Fault} {e : Expr} {fuel line : Nat}
  {lexeme : Lexeme} {c d : Cursor}

theorem run_bind_of_ok {α β : Type} {x : Grammar α} {f : α → Grammar β} {a : α}
    (done : x.run c = .ok (a, d)) : (x >>= f).run c = (f a).run d := by
  rw [StateT.run_bind, done]
  rfl

/-! ### What comes next -/

theorem atSign_of_ne {s : String} (apart : lexeme ≠ .sign s) :
    (atSign s).run ⟨⟨lexeme, line⟩ :: more, failure⟩ =
      .ok (false, ⟨⟨lexeme, line⟩ :: more, failure⟩) := by
  have other : isSign (some lexeme) s = false := by
    rw [isSign, beq_eq_false_iff_ne]
    exact fun same => apart (Option.some.inj same)
  show Except.ok (isSign (some lexeme) s, _) = _
  rw [other]

theorem skipName_of_ne {s : String} (apart : lexeme ≠ .name s) :
    (skipName s).run ⟨⟨lexeme, line⟩ :: more, failure⟩ =
      .ok (false, ⟨⟨lexeme, line⟩ :: more, failure⟩) := by
  have other : isName (some lexeme) s = false := by
    rw [isName, beq_eq_false_iff_ne]
    exact fun same => apart (Option.some.inj same)
  have asked : (atName s).run ⟨⟨lexeme, line⟩ :: more, failure⟩ =
      .ok (false, ⟨⟨lexeme, line⟩ :: more, failure⟩) := by
    show Except.ok (isName (some lexeme) s, _) = _
    rw [other]
  rw [skipName, run_bind_of_ok asked]
  rfl

/-- Nothing is left, or a sign that goes on with no expression. -/
def Ends (rest : List Token) : Prop :=
  rest = [] ∨ ∃ line more, rest = ⟨.sign ":", line⟩ :: more ∨ rest = ⟨.sign "\x7d", line⟩ :: more

/-- The lexeme begins an expression and is no operator before one. -/
structure Begins (lexeme : Lexeme) : Prop where
  minus : lexeme ≠ .sign "-"
  plus : lexeme ≠ .sign "+"
  not : lexeme ≠ .name "not"

/-! ### What goes on with an expression -/

section Ends

variable (ends : Ends rest)
include ends

theorem choiceTail_of_ends :
    (choiceTail fuel line e).run ⟨rest, failure⟩ = .ok (e, ⟨rest, failure⟩) := by
  cases fuel with
  | zero => rfl
  | succ fuel =>
      rw [choiceTail]
      obtain rfl | ⟨line, more, rfl | rfl⟩ := ends <;> rfl

theorem disjunctionTail_of_ends :
    (disjunctionTail fuel e).run ⟨rest, failure⟩ = .ok (e, ⟨rest, failure⟩) := by
  cases fuel with
  | zero => rfl
  | succ fuel =>
      rw [disjunctionTail]
      obtain rfl | ⟨line, more, rfl | rfl⟩ := ends <;> rfl

theorem conjunctionTail_of_ends :
    (conjunctionTail fuel e).run ⟨rest, failure⟩ = .ok (e, ⟨rest, failure⟩) := by
  cases fuel with
  | zero => rfl
  | succ fuel =>
      rw [conjunctionTail]
      obtain rfl | ⟨line, more, rfl | rfl⟩ := ends <;> rfl

theorem chainTail_of_ends :
    (chainTail fuel).run ⟨rest, failure⟩ = .ok ([], ⟨rest, failure⟩) := by
  cases fuel with
  | zero => rfl
  | succ fuel =>
      rw [chainTail]
      obtain rfl | ⟨line, more, rfl | rfl⟩ := ends <;> rfl

theorem sumTail_of_ends :
    (sumTail fuel e).run ⟨rest, failure⟩ = .ok (e, ⟨rest, failure⟩) := by
  cases fuel with
  | zero => rfl
  | succ fuel =>
      rw [sumTail]
      obtain rfl | ⟨line, more, rfl | rfl⟩ := ends <;> rfl

theorem joinedTail_of_ends :
    (joinedTail fuel).run ⟨rest, failure⟩ = .ok ([], ⟨rest, failure⟩) := by
  cases fuel with
  | zero => rfl
  | succ fuel =>
      rw [joinedTail]
      obtain rfl | ⟨line, more, rfl | rfl⟩ := ends <;> rfl

theorem productTail_of_ends :
    (productTail fuel e).run ⟨rest, failure⟩ = .ok (e, ⟨rest, failure⟩) := by
  cases fuel with
  | zero => rfl
  | succ fuel =>
      rw [productTail]
      obtain rfl | ⟨line, more, rfl | rfl⟩ := ends <;> rfl

theorem powerTail_of_ends :
    (powerTail fuel e).run ⟨rest, failure⟩ = .ok (e, ⟨rest, failure⟩) := by
  cases fuel with
  | zero => rfl
  | succ fuel =>
      rw [powerTail]
      obtain rfl | ⟨line, more, rfl | rfl⟩ := ends <;> rfl

theorem suffixes_of_ends :
    (suffixes fuel e).run ⟨rest, failure⟩ = .ok (e, ⟨rest, failure⟩) := by
  cases fuel with
  | zero => rfl
  | succ fuel =>
      rw [suffixes]
      obtain rfl | ⟨line, more, rfl | rfl⟩ := ends <;> rfl

theorem filters_of_ends :
    (filters fuel e).run ⟨rest, failure⟩ = .ok (e, ⟨rest, failure⟩) := by
  cases fuel with
  | zero => rfl
  | succ fuel =>
      rw [filters]
      obtain rfl | ⟨line, more, rfl | rfl⟩ := ends <;> rfl

theorem textTail_of_ends {s : String} :
    (textTail fuel s).run ⟨rest, failure⟩ = .ok (s, ⟨rest, failure⟩) := by
  cases fuel with
  | zero => rfl
  | succ fuel =>
      rw [textTail]
      obtain rfl | ⟨line, more, rfl | rfl⟩ := ends <;> rfl

/-! ### From a primary expression to an expression -/

variable (begins : Begins lexeme)
include begins

theorem signed_of_primary
    (read : (primary fuel).run ⟨⟨lexeme, line⟩ :: more, failure⟩ = .ok (e, ⟨rest, failure⟩)) :
    (signed (fuel + 1) true).run ⟨⟨lexeme, line⟩ :: more, failure⟩ = .ok (e, ⟨rest, failure⟩) := by
  rw [signed, run_bind_of_ok (atSign_of_ne begins.minus), run_bind_of_ok (atSign_of_ne begins.plus)]
  show (primary fuel >>= fun inner => suffixes fuel inner >>= filters fuel).run _ = _
  rw [run_bind_of_ok read, run_bind_of_ok (suffixes_of_ends ends), filters_of_ends ends]

/-- On every level of the grammar a primary expression is all that is read. -/
theorem negation_of_primary
    (read : (primary fuel).run ⟨⟨lexeme, line⟩ :: more, failure⟩ = .ok (e, ⟨rest, failure⟩)) :
    (negation (fuel + 7)).run ⟨⟨lexeme, line⟩ :: more, failure⟩ = .ok (e, ⟨rest, failure⟩) := by
  have power : (power (fuel + 2)).run ⟨⟨lexeme, line⟩ :: more, failure⟩ =
      .ok (e, ⟨rest, failure⟩) := by
    rw [Grammar.power, run_bind_of_ok (signed_of_primary ends begins read), powerTail_of_ends ends]
  have product : (product (fuel + 3)).run ⟨⟨lexeme, line⟩ :: more, failure⟩ =
      .ok (e, ⟨rest, failure⟩) := by
    rw [Grammar.product, run_bind_of_ok power, productTail_of_ends ends]
  have joined : (joined (fuel + 4)).run ⟨⟨lexeme, line⟩ :: more, failure⟩ =
      .ok (e, ⟨rest, failure⟩) := by
    rw [Grammar.joined, run_bind_of_ok product, run_bind_of_ok (joinedTail_of_ends ends)]
    rfl
  have sum : (sum (fuel + 5)).run ⟨⟨lexeme, line⟩ :: more, failure⟩ = .ok (e, ⟨rest, failure⟩) := by
    rw [Grammar.sum, run_bind_of_ok joined, sumTail_of_ends ends]
  have chain : (chain (fuel + 6)).run ⟨⟨lexeme, line⟩ :: more, failure⟩ =
      .ok (e, ⟨rest, failure⟩) := by
    rw [Grammar.chain, run_bind_of_ok sum, run_bind_of_ok (chainTail_of_ends ends)]
    rfl
  rw [negation, run_bind_of_ok (skipName_of_ne begins.not)]
  exact chain

theorem expression_of_primary
    (read : (primary fuel).run ⟨⟨lexeme, line⟩ :: more, failure⟩ = .ok (e, ⟨rest, failure⟩)) :
    (expression (fuel + 10)).run ⟨⟨lexeme, line⟩ :: more, failure⟩ = .ok (e, ⟨rest, failure⟩) := by
  have conjunction : (conjunction (fuel + 8)).run ⟨⟨lexeme, line⟩ :: more, failure⟩ =
      .ok (e, ⟨rest, failure⟩) := by
    rw [Grammar.conjunction, run_bind_of_ok (negation_of_primary ends begins read),
      conjunctionTail_of_ends ends]
  have disjunction : (disjunction (fuel + 9)).run ⟨⟨lexeme, line⟩ :: more, failure⟩ =
      .ok (e, ⟨rest, failure⟩) := by
    rw [Grammar.disjunction, run_bind_of_ok conjunction, disjunctionTail_of_ends ends]
  have placed : currentLine.run ⟨⟨lexeme, line⟩ :: more, failure⟩ =
      .ok (line, ⟨⟨lexeme, line⟩ :: more, failure⟩) := rfl
  rw [expression, run_bind_of_ok placed, run_bind_of_ok disjunction, choiceTail_of_ends ends]

end Ends

/-! ### A mapping with one entry -/

/-- What a word is read as: a constant or a name. -/
def word (s : String) : Expr := ((constant? s).map .literal).getD (.name s)

theorem advance_of_cons {token : Token} :
    advance.run ⟨token :: rest, none⟩ = .ok ((), ⟨rest, none⟩) := by
  cases rest <;> rfl

theorem expectSign_of_cons {s : String} :
    (expectSign s).run ⟨⟨.sign s, line⟩ :: rest, none⟩ = .ok ((), ⟨rest, none⟩) := by
  have here : (atSign s).run ⟨⟨.sign s, line⟩ :: rest, none⟩ =
      .ok (true, ⟨⟨.sign s, line⟩ :: rest, none⟩) := by
    show Except.ok (isSign (some (.sign s)) s, _) = _
    rw [isSign, beq_self_eq_true]
  rw [expectSign, run_bind_of_ok here]
  exact advance_of_cons

theorem primary_of_name {s : String} :
    (primary (fuel + 1)).run ⟨⟨.name s, line⟩ :: rest, none⟩ = .ok (word s, ⟨rest, none⟩) := by
  have next : current.run ⟨⟨.name s, line⟩ :: rest, none⟩ =
      .ok (some (.name s), ⟨⟨.name s, line⟩ :: rest, none⟩) := rfl
  rw [primary, run_bind_of_ok next]
  dsimp only
  rw [run_bind_of_ok advance_of_cons, word]
  cases constant? s <;> rfl

theorem primary_of_text {s : String} (ends : Ends rest) :
    (primary (fuel + 1)).run ⟨⟨.text s, line⟩ :: rest, none⟩ =
      .ok (.literal (.text s), ⟨rest, none⟩) := by
  have next : current.run ⟨⟨.text s, line⟩ :: rest, none⟩ =
      .ok (some (.text s), ⟨⟨.text s, line⟩ :: rest, none⟩) := rfl
  rw [primary, run_bind_of_ok next]
  dsimp only
  rw [run_bind_of_ok advance_of_cons, run_bind_of_ok (textTail_of_ends ends)]
  rfl

/-- A mapping of a text to a word. -/
def entry (key s : String) (line : Nat) : List Token :=
  [⟨.sign "\x7b", line⟩, ⟨.text key, line⟩, ⟨.sign ":", line⟩, ⟨.name s, line⟩, ⟨.sign "\x7d", line⟩]

theorem begins_text {s : String} : Begins (.text s) := ⟨by simp, by simp, by simp⟩

theorem begins_brace : Begins (.sign "\x7b") := ⟨by simp, by simp, by simp⟩

theorem begins_name {s : String} (free : s ≠ "not") : Begins (.name s) :=
  ⟨by simp, by simp, by simpa using free⟩

theorem dictEntries_of_entry {key s : String} (free : s ≠ "not") :
    (dictEntries (fuel + 12) []).run ⟨(entry key s line).tail, none⟩ =
      .ok ([(.literal (.text key), word s)], ⟨[⟨.sign "\x7d", line⟩], none⟩) := by
  have colon : Ends [⟨.sign ":", line⟩, ⟨.name s, line⟩, ⟨.sign "\x7d", line⟩] :=
    Or.inr ⟨line, _, Or.inl rfl⟩
  have brace : Ends [⟨.sign "\x7d", line⟩] := Or.inr ⟨line, [], Or.inr rfl⟩
  have left : (expression (fuel + 11)).run
      ⟨[⟨.text key, line⟩, ⟨.sign ":", line⟩, ⟨.name s, line⟩, ⟨.sign "\x7d", line⟩], none⟩ =
        .ok (.literal (.text key), ⟨[⟨.sign ":", line⟩, ⟨.name s, line⟩, ⟨.sign "\x7d", line⟩], none⟩) :=
    expression_of_primary colon begins_text (primary_of_text colon)
  have right : (expression (fuel + 11)).run ⟨[⟨.name s, line⟩, ⟨.sign "\x7d", line⟩], none⟩ =
      .ok (word s, ⟨[⟨.sign "\x7d", line⟩], none⟩) :=
    expression_of_primary brace (begins_name free) primary_of_name
  have ended {entries : List (Expr × Expr)} :
      (dictEntries (fuel + 11) entries).run ⟨[⟨.sign "\x7d", line⟩], none⟩ =
        .ok (entries, ⟨[⟨.sign "\x7d", line⟩], none⟩) := by
    rw [dictEntries]
    rfl
  rw [dictEntries, entry, List.tail_cons, run_bind_of_ok (atSign_of_ne (by simp))]
  show (atSign "\x7d" >>= fun closed => if closed then _ else expression (fuel + 11) >>= _).run _ = _
  rw [run_bind_of_ok (atSign_of_ne (by simp)), if_neg Bool.false_ne_true, run_bind_of_ok left]
  rw [run_bind_of_ok expectSign_of_cons, run_bind_of_ok right, ended]
  rfl

theorem expression_of_entry {key s : String} (free : s ≠ "not") :
    (expression (fuel + 23)).run ⟨entry key s line, none⟩ =
      .ok (.dict [(.literal (.text key), word s)], ⟨[], none⟩) := by
  apply expression_of_primary (Or.inl rfl) begins_brace
  have next : current.run ⟨entry key s line, none⟩ =
      .ok (some (.sign "\x7b"), ⟨entry key s line, none⟩) := rfl
  have past : advance.run ⟨entry key s line, none⟩ = .ok ((), ⟨(entry key s line).tail, none⟩) :=
    advance_of_cons
  show (primary (fuel + 13)).run ⟨entry key s line, none⟩ = _
  rw [primary, run_bind_of_ok next]
  show (advance >>= fun _ => dictEntries (fuel + 12) [] >>= _).run _ = _
  rw [run_bind_of_ok past, run_bind_of_ok (dictEntries_of_entry free),
    run_bind_of_ok expectSign_of_cons]
  rfl

end Stepwise.Script.Grammar
