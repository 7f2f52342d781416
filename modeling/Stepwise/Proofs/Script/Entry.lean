import Stepwise.Proofs.Script.Grammar
import Stepwise.Proofs.Script.Scanning
import Stepwise.Script.Evaluation

/-!
Scripts of one entry, which put one word under a text. Such a script comes to a mapping with this entry:
to the value of the word where scripts read it as a name, and to nothing where the word is `none`.
-/

namespace Stepwise.Script

open Text (isIdentifier)
open Token (isPlain nameChar written)

variable {key name : String} {scope : Fields}

/-! ### Names -/

/-- The words that an expression may begin with and that are no names. -/
def keptWords : List String := ["true", "True", "false", "False", "none", "None", "not"]

/-- Scripts read the identifier as a name, and as no other name. -/
structure Nameable (name : String) : Prop where
  identifier : isIdentifier name.toList = true
  known : ∀ c ∈ name.toList, nameChar c = true
  free : name ∉ keptWords
  apart : isResultForm name = false

theorem word_of_free (free : name ∉ keptWords) : Grammar.word name = .name name := by
  simp only [keptWords, List.mem_cons, List.not_mem_nil, or_false, not_or] at free
  obtain ⟨true₁, true₂, false₁, false₂, none₁, none₂, -⟩ := free
  simp [Grammar.word, Grammar.constant?, true₁, true₂, false₁, false₂, none₁, none₂]

theorem letterForms_beyond_ascii : ∀ f ∈ letterForms, ∀ n ∈ f.2, 128 ≤ n := by decide

theorem plainForm_of_ascii {c : Char} (ascii : c.toNat < 128) : plainForm c = c := by
  have none : letterForms.find? (fun f => f.2.contains c.toNat) = none := by
    rw [List.find?_eq_none]
    intro f form listed
    rw [List.contains_iff_mem] at listed
    exact absurd (letterForms_beyond_ascii f form _ listed) (by omega)
  rw [plainForm, none]
  rfl

theorem lateMarks_beyond_ascii : ∀ m ∈ Token.lateMarks, 128 ≤ m.1 := by decide

theorem nameChar_of_ascii {c : Char} (ascii : c.toNat < 128) (goes : Text.isIdentifierContinue c = true) :
    nameChar c = true := by
  have early : Token.isLateMark c = false := by
    rw [Token.isLateMark, List.any_eq_false]
    intro m late
    rw [Bool.and_eq_true, decide_eq_true_eq, decide_eq_true_eq]
    have beyond := lateMarks_beyond_ascii m late
    omega
  rw [nameChar, goes, early, Bool.not_false, Bool.and_true, Bool.or_true]

theorem goes_of_start {c : Char} (ascii : c.toNat < 128) (start : Text.isIdentifierStart c = true) :
    Text.isIdentifierContinue c = true := by
  have low : Text.isAscii c = true := decide_eq_true ascii
  rw [Text.isIdentifierStart, if_pos low] at start
  rw [Text.isIdentifierContinue, if_pos low, Bool.or_right_comm, start, Bool.true_or]

/-- Within ASCII every identifier is a name but the words that are kept. -/
theorem nameable_of_ascii (identifier : isIdentifier name.toList = true)
    (within : name.toList.all Text.isAscii = true) (free : name ∉ keptWords) : Nameable name := by
  have ascii : ∀ c ∈ name.toList, c.toNat < 128 := fun c inside =>
    of_decide_eq_true (List.all_eq_true.mp within c inside)
  refine ⟨identifier, ?_, free, ?_⟩
  · cases spelled : name.toList with
    | nil => exact List.forall_mem_nil _
    | cons c rest =>
        rw [spelled] at identifier ascii
        obtain ⟨start, later⟩ := Bool.and_eq_true_iff.mp identifier
        obtain ⟨low, below⟩ := List.forall_mem_cons.mp ascii
        exact List.forall_mem_cons.mpr ⟨nameChar_of_ascii low (goes_of_start low start),
          fun d inside => nameChar_of_ascii (below d inside) (List.all_eq_true.mp later d inside)⟩
  · have same : name.toList.map plainForm = name.toList :=
      (List.map_congr_left fun c inside => plainForm_of_ascii (ascii c inside)).trans (List.map_id _)
    rw [isResultForm, same, Bool.and_eq_false_iff, bne_eq_false_iff_eq, beq_eq_false_iff_ne, ne_eq,
      String.toList_inj]
    exact Decidable.em (name = "result")

/-! ### Reading and evaluation -/

theorem parse_written (plain : ∀ c ∈ key.toList, isPlain c = true)
    (identifier : isIdentifier name.toList = true) (known : ∀ c ∈ name.toList, nameChar c = true)
    (free : name ≠ "not") : Expr.parse (String.ofList (written key.toList name.toList)) =
      .ok (.dict [(.literal (.text key), Grammar.word name)]) := by
  have read := @Grammar.expression_of_entry 117 1 key name free
  rw [Expr.parse, Token.scan_written plain identifier known, String.ofList_toList, String.ofList_toList]
  show ((Grammar.expression 140).run ⟨Grammar.entry key name 1, none⟩ >>=
    fun x => if x.2.rest.isEmpty then Except.ok x.1 else _) = _
  rw [read]
  rfl

theorem run_of_prepared {source : String} {e : Expr} (prepared : prepare source = .ok e)
    (single : ¬scope.any (·.1 == "self") = true) : run source scope = e.eval scope := by
  rw [run, prepared]
  show (if scope.any (·.1 == "self") = true then _ else _) = _
  rw [if_neg single]

/-- The script puts the value of the name under the text. -/
theorem run_written_of_name (plain : ∀ c ∈ key.toList, isPlain c = true) (nameable : Nameable name)
    (single : ¬scope.any (·.1 == "self") = true) :
    run (String.ofList (written key.toList name.toList)) scope =
      .ok (.dict [(.text key, resolve scope name)]) := by
  have apart : name ≠ "not" := by
    rintro rfl
    exact nameable.free (by decide)
  have parsed := parse_written plain nameable.identifier nameable.known apart
  rw [word_of_free nameable.free] at parsed
  have prepared : prepare (String.ofList (written key.toList name.toList)) =
      .ok (.dict [(.literal (.text key), .name name)]) := by
    rw [prepare, parsed]
    rfl
  rw [run_of_prepared prepared single]
  rfl

/-- The mapping to `none` is settled before the script runs. -/
theorem run_written_none (plain : ∀ c ∈ key.toList, isPlain c = true)
    (single : ¬scope.any (·.1 == "self") = true) :
    run (String.ofList (written key.toList "none".toList)) scope = .ok (.dict [(.text key, .null)]) := by
  have known : ∀ c ∈ "none".toList, nameChar c = true := List.all_eq_true.mp (by decide)
  have parsed := parse_written plain (by decide) known (by decide)
  have prepared : prepare (String.ofList (written key.toList "none".toList)) =
      .ok (.literal (.dict [(.text key, .null)])) := by
    rw [prepare, parsed]
    rfl
  rw [run_of_prepared prepared single]
  rfl

end Stepwise.Script
