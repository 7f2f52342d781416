import Stepwise.Proofs.Reference.Composition
import Stepwise.Proofs.Reference.Index

/-!
Names in mappings. A name that is written as a path of its own leads to what the mapping has under it,
unless the name counts as digits. Digits are read as a number, and the mapping is asked for the number as it
is spelled without leading zeros, in digits of ASCII.
-/

namespace Stepwise

namespace Path

variable {k : String}

/-- What counts as digits is the spelling of a number that is not too long to be read. -/
def Spelled (k : String) : Prop :=
  isDigits k.toList = true → (∃ n, Nat.repr n = k) ∧ k.toList.length ≤ 4300

theorem indexOf_of_digits {s : List Char} (digits : isDigits s = true)
    (decimal : ∀ c ∈ s, Text.isDecimal c = true) (short : s.length ≤ 4300) :
    indexOf s = .ok (Text.numberOf s) := by
  have some : s ≠ [] := by
    rintro rfl
    cases digits
  have read := Reading.int?_of_decimals some decimal
  rw [if_neg (Nat.not_lt_of_le short)] at read
  rw [indexOf, Value.readInt, read]
  rfl

/-- Digits that write a number lead to its index, and nothing else does. -/
theorem indexOf_cases {s : List Char} (digits : isDigits s = true) (trimmed : Text.trim s = s) :
    (Misnumbered s ∧ ∃ e, indexOf s = .error e) ∨ (¬Misnumbered s ∧ indexOf s = .ok (Text.numberOf s)) := by
  by_cases wrong : Misnumbered s
  · left
    refine ⟨wrong, ?_⟩
    cases read : indexOf s with
    | error e => exact ⟨e, rfl⟩
    | ok n =>
        obtain ⟨decimal, short⟩ := (exists_indexOf_iff digits).mp ⟨n, read⟩
        unfold Misnumbered at wrong
        rw [trimmed] at wrong
        rcases wrong.2 with ⟨c, member, other⟩ | long
        · rw [decimal c member] at other
          cases other
        · omega
  · right
    refine ⟨wrong, indexOf_of_digits digits ?_ ?_⟩
    · intro c member
      by_contra other
      apply wrong
      rw [Misnumbered, trimmed]
      exact ⟨digits, Or.inl ⟨c, member, Bool.eq_false_iff.mpr other⟩⟩
    · by_contra long
      apply wrong
      rw [Misnumbered, trimmed]
      exact ⟨digits, Or.inr (Nat.lt_of_not_le long)⟩

/-- The spelling of a number is read as the number. -/
theorem indexOf_of_spelled (spelled : Spelled k) (digits : isDigits k.toList = true) :
    ∃ n, indexOf k.toList = .ok n ∧ Nat.repr n = k := by
  obtain ⟨⟨n, rfl⟩, short⟩ := spelled digits
  have decimal (c : Char) (member : c ∈ (Nat.repr n).toList) : Text.isDecimal c = true :=
    Text.isDecimal_of_isDigit (isDigit_of_repr rfl c member)
  refine ⟨n, ?_, rfl⟩
  rw [indexOf_of_digits digits decimal short, Text.numberOf_repr]

theorem readable_of_spelled (ordinary : Ordinary k) (spelled : Spelled k) : Readable k where
  undotted := ordinary.undotted
  trimmed := ordinary.trimmed
  unstarred := ordinary.unstarred
  canonical := indexOf_of_spelled spelled

end Path

namespace Value

open Stepwise.Path (Ordinary Spelled isDigits)

variable {k name : String}

theorem lookup_name {segment : Segment} (named : segment.name? = some name) (entries : Entries) :
    lookup [segment] (dict entries) = (lookupText? entries name).getD null := by
  have other : segment ≠ .each := by
    rintro rfl
    cases named
  rw [lookup_cons other, child, named]
  rfl

theorem find_of_spelled (ordinary : Ordinary k) (spelled : Spelled k) (entries : Entries) :
    (dict entries).find k = .ok ((lookupText? entries k).getD null) := by
  obtain ⟨segment, read, named⟩ := Path.parse_of_readable (Path.readable_of_spelled ordinary spelled)
  rw [find, read]
  exact congrArg Except.ok (lookup_name named entries)

/-- Digits that are no misnumbered ones are looked up by the number that they write. -/
theorem find_of_number (ordinary : Ordinary k) (digits : isDigits k.toList = true)
    (readable : ¬Path.Misnumbered k.toList) (entries : Entries) : (dict entries).find k =
      .ok ((lookupText? entries (Nat.repr (Text.numberOf k.toList))).getD null) := by
  rcases Path.indexOf_cases digits ordinary.trimmed with ⟨wrong, -⟩ | ⟨-, index⟩
  · exact absurd wrong readable
  · rw [find, Path.parse_ordinary ordinary, if_pos digits, index]
    exact congrArg Except.ok (lookup_name rfl entries)

theorem exists_find_eq_error_iff (ordinary : Ordinary k) (v : Value) :
    (∃ e, v.find k = .error e) ↔ Path.Misnumbered k.toList := by
  rw [find, Path.parse_ordinary ordinary]
  by_cases digits : isDigits k.toList = true
  · rw [if_pos digits]
    rcases Path.indexOf_cases digits ordinary.trimmed with ⟨wrong, e, index⟩ | ⟨readable, index⟩
    · rw [index]
      exact iff_of_true ⟨e, rfl⟩ wrong
    · rw [index]
      refine iff_of_false ?_ readable
      rintro ⟨_, ⟨⟩⟩
  · rw [if_neg digits]
    refine iff_of_false (by rintro ⟨_, ⟨⟩⟩) fun wrong => digits ?_
    rw [← ordinary.trimmed]
    exact wrong.1

/-- A name of its own leads to what a mapping has under it, or to nothing if the mapping lacks it, for every
mapping exactly if it does not count as digits or is the spelling of a number. Other digits are refused, and
by every value, if they are misnumbered, and else lead to what the mapping has under the spelling of the
number that they write. -/
theorem find_name_iff (ordinary : Ordinary k) :
    ((∀ fields : Fields, (ofFields fields).find k = .ok (Fields.getD fields k)) ↔ Spelled k) ∧
    (Spelled k → ∀ entries : Entries,
      (dict entries).find k = .ok ((lookupText? entries k).getD null)) ∧
    (∀ v : Value, (∃ e, v.find k = .error e) ↔ Path.Misnumbered k.toList) ∧
    (isDigits k.toList = true → ¬Path.Misnumbered k.toList → ∀ entries : Entries, (dict entries).find k =
      .ok ((lookupText? entries (Nat.repr (Text.numberOf k.toList))).getD null)) := by
  refine ⟨⟨?_, ?_⟩, find_of_spelled ordinary, exists_find_eq_error_iff ordinary,
    find_of_number ordinary⟩
  · -- A mapping that has the name alone tells its spelling from every other one.
    intro all digits
    have found := all [(k, .bool true)]
    have readable : ¬Path.Misnumbered k.toList := by
      rw [← exists_find_eq_error_iff ordinary (ofFields [(k, .bool true)]), found]
      rintro ⟨_, ⟨⟩⟩
    have number := find_of_number ordinary digits readable [(.text k, .bool true)]
    have same : (lookupText? [(.text k, .bool true)] (Nat.repr (Text.numberOf k.toList))).getD null =
        .bool true := by
      have alone : Fields.getD [(k, .bool true)] k = .bool true := by simp [Fields.getD, Fields.get?]
      rw [alone] at found
      exact Except.ok.inj (number.symm.trans found)
    have spelling : Nat.repr (Text.numberOf k.toList) = k := by
      by_contra apart
      have absent : lookupText? [(.text k, .bool true)] (Nat.repr (Text.numberOf k.toList)) = none := by
        have fields := lookupText?_fields [(k, .bool true)] (Nat.repr (Text.numberOf k.toList))
        simpa [Fields.get?, Ne.symm apart] using fields
      rw [absent] at same
      cases same
    refine ⟨⟨_, spelling⟩, ?_⟩
    by_contra long
    exact readable ⟨by rwa [ordinary.trimmed], Or.inr (by rw [ordinary.trimmed]; omega)⟩
  · intro spelled fields
    have found := find_of_spelled ordinary spelled (fields.map fun f => (.text f.1, f.2))
    rw [lookupText?_fields] at found
    exact found

/-- A name with leading zeros is not found where it is, and digits that are no decimal ones are refused even
where they are there. -/
theorem spelling_is_lost :
    Ordinary "007" ∧ Fields.getD [("007", int 1)] "007" = int 1 ∧
    (ofFields [("007", int 1)]).find "007" = .ok null ∧
    Ordinary "²" ∧ ∃ e, (ofFields [("²", int 1)]).find "²" = .error e := by
  have square : Ordinary "²" := ⟨by decide, by decide, by decide, by decide⟩
  have seven : Path.parse "007" = .ok [.index 7] := by cbv
  refine ⟨⟨by decide, by decide, by decide, by decide⟩, rfl, ?_, square, ?_⟩
  · rw [find, seven]
    rfl
  · rw [exists_find_eq_error_iff square]
    exact ⟨by decide, Or.inl ⟨'²', by decide, by decide⟩⟩

/-- Digits of another script are looked up by the number that they write. -/
theorem find_name_iff_seven :
    Ordinary "٠٧" ∧ isDigits "٠٧".toList = true ∧ ¬Path.Misnumbered "٠٧".toList ∧
    (ofFields [("٠٧", int 1), ("7", int 2)]).find "٠٧" = .ok (int 2) ∧ ¬Spelled "٠٧" := by
  have ordinary : Ordinary "٠٧" := ⟨by decide, by decide, by decide, by decide⟩
  have digits : isDigits "٠٧".toList = true := by decide
  have readable : ¬Path.Misnumbered "٠٧".toList := by
    have chars : Text.trim "٠٧".toList = ['٠', '٧'] := ordinary.trimmed
    rw [Path.Misnumbered, chars]
    rintro ⟨-, ⟨c, member, other⟩ | long⟩
    · simp only [List.mem_cons, List.not_mem_nil, or_false] at member
      rcases member with rfl | rfl
      · exact absurd other (by decide)
      · exact absurd other (by decide)
    · exact absurd long (by decide)
  obtain ⟨spelled, -, -, number⟩ := find_name_iff ordinary
  have found := number digits readable [(.text "٠٧", int 1), (.text "7", int 2)]
  refine ⟨ordinary, digits, readable, found, fun same => ?_⟩
  have own := spelled.mpr same [("٠٧", int 1), ("7", int 2)]
  rw [show (ofFields [("٠٧", int 1), ("7", int 2)]).find "٠٧" = _ from found] at own
  cases own

end Value

end Stepwise
