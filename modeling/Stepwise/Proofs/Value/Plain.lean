import Stepwise.Reference.Resolution

/-!
Plain data: what JSON has a form for. It has a text as JSON, and a text inside other texts.
-/

namespace Stepwise

/-! ### Numbers -/

/-- An integer that is not too long to be written. -/
def Value.Writable (n : Int) : Prop := n.natAbs < Nat.pow 10 maxIntDigits

theorem Value.writtenInt_of_writable {n : Int} (writable : Writable n) :
    writtenInt n = .ok (Decimal.intString n) := if_pos writable

namespace Binary64

/-- A number whose mantissa and exponent are in the range of finite numbers. -/
def InRange : Binary64 → Prop
  | .finite _ mantissa exponent => mantissa < Nat.pow 2 53 ∧ exponent ≤ maxExponent
  | _ => True

theorem natAbs_truncate_le (negative : Bool) (mantissa : Nat) {exponent : Int} {k : Nat}
    (bound : exponent.toNat ≤ k) :
    (truncate negative mantissa exponent).natAbs ≤ mantissa * Nat.pow 2 k := by
  have whole : (truncate negative mantissa exponent).natAbs =
      (ratio mantissa exponent).1 / (ratio mantissa exponent).2 := by
    simp only [truncate]
    split
    · rw [Int.natAbs_neg, Int.natAbs_natCast]
    · rw [Int.natAbs_natCast]
  rw [whole, ratio]
  split
  · rw [Nat.div_one]
    exact Nat.mul_le_mul_left mantissa (Nat.pow_le_pow_right Nat.two_pos bound)
  · calc mantissa / Nat.pow 2 (-exponent).toNat ≤ mantissa := Nat.div_le_self _ _
      _ ≤ mantissa * Nat.pow 2 k := Nat.le_mul_of_pos_right _ (Nat.two_pow_pos k)

/-- The whole part of a number is no long integer. -/
theorem writable_of_toInt? {x : Binary64} {n : Int} (inRange : x.InRange)
    (whole : x.toInt? = some n) : Value.Writable n := by
  cases x with
  | nan => cases whole
  | infinite negative => cases whole
  | finite negative mantissa exponent =>
      cases whole
      obtain ⟨small, low⟩ := inRange
      calc (truncate negative mantissa exponent).natAbs
          ≤ mantissa * Nat.pow 2 maxExponent.toNat :=
            natAbs_truncate_le negative mantissa (Int.toNat_le_toNat low)
        _ ≤ Nat.pow 2 53 * Nat.pow 2 maxExponent.toNat :=
            Nat.mul_le_mul_right _ (Nat.le_of_lt small)
        _ < Nat.pow 10 Value.maxIntDigits := by decide +kernel

end Binary64

/-! ### Plain data -/

namespace Value

/-- Data that JSON has a form for: numbers that can be written, texts, and lists and mappings of such
data, where the keys of mappings are texts. -/
inductive Plain : Value → Prop where
  | null : Plain null
  | bool (flag : Bool) : Plain (bool flag)
  | int {n : Int} (writable : Writable n) : Plain (int n)
  | float {x : Binary64} (inRange : x.InRange) : Plain (float x)
  | text (s : String) : Plain (text s)
  | list {items : List Value} (all : ∀ v ∈ items, Plain v) : Plain (list items)
  | dict {entries : Entries} (keys : ∀ e ∈ entries, ∃ name, e.1 = .text name)
      (all : ∀ e ∈ entries, Plain e.2) : Plain (dict entries)

/-- Data of the same forms, where a number may be any number: what a JSON text can hold. -/
inductive OfJson : Value → Prop where
  | null : OfJson null
  | bool (flag : Bool) : OfJson (bool flag)
  | int {n : Int} (writable : Writable n) : OfJson (int n)
  | float (x : Binary64) : OfJson (float x)
  | text (s : String) : OfJson (text s)
  | list {items : List Value} (all : ∀ v ∈ items, OfJson v) : OfJson (list items)
  | dict {entries : Entries} (keys : ∀ e ∈ entries, ∃ name, e.1 = .text name)
      (all : ∀ e ∈ entries, OfJson e.2) : OfJson (dict entries)

theorem Plain.ofJson {v : Value} (plain : v.Plain) : v.OfJson := by
  induction plain with
  | null => exact .null
  | bool flag => exact .bool flag
  | int writable => exact .int writable
  | float inRange => exact .float _
  | text s => exact .text s
  | list all ih => exact .list ih
  | dict keys all ih => exact .dict keys ih

theorem ofJson_ofFields {fields : Fields} (all : ∀ f ∈ fields, f.2.OfJson) :
    (ofFields fields).OfJson := by
  refine .dict ?_ ?_
  · intro e member
    obtain ⟨f, -, rfl⟩ := List.mem_map.mp member
    exact ⟨f.1, rfl⟩
  · intro e member
    obtain ⟨f, inside, rfl⟩ := List.mem_map.mp member
    exact all f inside

end Value

namespace Json

variable {style : Style}

theorem exists_writeAll {items : List Value} {level : Nat}
    (all : ∀ v ∈ items, ∃ s, write style level v = .ok s) :
    ∃ texts, write.writeAll style level items = .ok texts := by
  induction items with
  | nil => exact ⟨[], rfl⟩
  | cons v rest ih =>
      obtain ⟨⟨s, first⟩, later⟩ := List.forall_mem_cons.mp all
      obtain ⟨texts, others⟩ := ih later
      exact ⟨s :: texts, by rw [write.writeAll, first, others]; rfl⟩

/-- Entries under texts make lines wherever their values have texts. -/
theorem exists_lines {entries : Entries} {level : Nat} {line : Value × Checked String → Checked String}
    {join : List String → String} (lines : ∀ name s, ∃ t, line (.text name, .ok s) = .ok t)
    (keys : ∀ e ∈ entries, ∃ name, e.1 = .text name)
    (all : ∀ e ∈ entries, ∃ s, write style level e.2 = .ok s) :
    ∃ s, ((write.writeEntries style level entries).mapM line >>= fun texts => .ok (join texts)) =
      .ok s := by
  have written : ∃ texts, (write.writeEntries style level entries).mapM line = .ok texts := by
    induction entries with
    | nil => exact ⟨[], rfl⟩
    | cons e rest ih =>
        obtain ⟨key, v⟩ := e
        obtain ⟨⟨name, atKey⟩, laterKeys⟩ := List.forall_mem_cons.mp keys
        obtain ⟨⟨s, first⟩, later⟩ := List.forall_mem_cons.mp all
        obtain ⟨t, lined⟩ := lines name s
        obtain ⟨texts, others⟩ := ih laterKeys later
        cases atKey
        refine ⟨t :: texts, ?_⟩
        rw [write.writeEntries, List.mapM_cons, first, lined, others]
        rfl
  obtain ⟨texts, written⟩ := written
  exact ⟨join texts, by rw [written]; rfl⟩

/-- JSON has a text for what a JSON text can hold. -/
theorem exists_write_of_ofJson {v : Value} (held : v.OfJson) (style : Style)
    (unsorted : style.sortKeys = false) (level : Nat) : ∃ s, write style level v = .ok s := by
  induction held generalizing level with
  | null => exact ⟨_, by rw [write]⟩
  | bool flag => exact ⟨_, by rw [write]⟩
  | int writable => exact ⟨_, by rw [write, Value.writtenInt_of_writable writable]⟩
  | float x => exact ⟨_, by rw [write]⟩
  | text s => exact ⟨_, by rw [write]⟩
  | list all ih =>
      obtain ⟨texts, written⟩ := exists_writeAll fun v member => ih v member (level + 1)
      exact ⟨_, by rw [write, written]; rfl⟩
  | dict keys all ih =>
      rw [write, arrange, unsorted]
      exact exists_lines (fun name s => ⟨_, rfl⟩) keys fun e member => ih e member (level + 1)

end Json

namespace Value

theorem exists_inTextAll {items : List Value} (all : ∀ v ∈ items, ∃ s, v.inText = .ok s) :
    ∃ texts, inText.inTextAll items = .ok texts := by
  induction items with
  | nil => exact ⟨[], rfl⟩
  | cons v rest ih =>
      obtain ⟨⟨s, first⟩, later⟩ := List.forall_mem_cons.mp all
      obtain ⟨texts, others⟩ := ih later
      exact ⟨s :: texts, by rw [inText.inTextAll, first, others]; rfl⟩

/-- Plain data has a text inside other texts. -/
theorem exists_inText_of_plain {v : Value} (plain : v.Plain) : ∃ s, v.inText = .ok s := by
  induction plain with
  | null => exact ⟨_, by rw [inText]⟩
  | bool flag => exact ⟨_, by rw [inText]⟩
  | @int n writable =>
      have whole : (int n).inText = writtenInt n := by
        simp only [inText, shown, written]
      exact ⟨_, by rw [whole, writtenInt_of_writable writable]⟩
  | @float x inRange =>
      rw [inText]
      cases whole : x.toInt? with
      | none => exact ⟨_, rfl⟩
      | some n =>
          have writable := Binary64.writable_of_toInt? inRange whole
          simp only [writtenInt_of_writable writable]
          split
          · exact ⟨_, rfl⟩
          · exact ⟨_, rfl⟩
  | text s => exact ⟨s, rfl⟩
  | list all ih =>
      obtain ⟨texts, shown⟩ := exists_inTextAll ih
      exact ⟨_, by rw [inText, shown]; rfl⟩
  | dict keys all ih =>
      rw [inText, Json.render]
      exact Json.exists_write_of_ofJson (Plain.dict keys all).ofJson .lenientPlain rfl 0

end Value

end Stepwise
