import Stepwise.Proofs.Checked
import Stepwise.Value.Directives
import Stepwise.Value.Subscript

/-!
Strict absences: what works with one comes to a fault.
-/

namespace Stepwise.Value

/-- A value that is no strict absence. -/
def Usable (v : Value) : Prop := ∀ a, v = undefined a → a.strict = false

/-- An operation that a strict absence makes come to a fault. -/
def Refuses {α : Type} (f : Value → Checked α) : Prop :=
  ∀ a : Absence, a.strict = true → ∃ fault, f (undefined a) = .error fault

variable {v w : Value}

theorem Refuses.usable {α : Type} {f : Value → Checked α} {x : α} (refuses : Refuses f)
    (done : f v = .ok x) : v.Usable := by
  rintro a rfl
  cases strict : a.strict with
  | false => rfl
  | true =>
      obtain ⟨fault, failed⟩ := refuses a strict
      rw [failed] at done
      cases done

/-- What follows an operation changes nothing about what it refuses. -/
theorem Refuses.bind {α β : Type} {f : Value → Checked α} (refuses : Refuses f) (g : Value → α → Checked β) :
    Refuses fun v => f v >>= g v := by
  intro a strict
  obtain ⟨fault, failed⟩ := refuses a strict
  refine ⟨fault, ?_⟩
  dsimp only
  rw [failed]
  rfl

/-! ### Conversions -/

theorem refuses_truthy : Refuses truthy := fun a strict => ⟨a.fault, by rw [truthy, if_pos strict]⟩

theorem refuses_shown : Refuses shown := fun a strict => ⟨a.fault, by rw [shown, if_pos strict]⟩

theorem refuses_items : Refuses items := fun a strict => ⟨a.fault, by rw [items, if_pos strict]⟩

theorem refuses_allItems : Refuses allItems := refuses_items.bind _

theorem refuses_checkKey : Refuses checkKey := fun a strict => ⟨a.fault, by rw [checkKey, if_pos strict]⟩

/-! ### Arithmetic -/

theorem exists_operandFault (v : Value) (a : Absence) : ∃ fault, operandFault? v (undefined a) = some fault := by
  cases v with
  | undefined b => exact ⟨b.fault, rfl⟩
  | _ => exact ⟨a.fault, rfl⟩

section Numbers

variable (operator : String) (ints : Int → Int → Checked Value)
  (floats : Binary64 → Binary64 → Checked Value)

theorem refuses_onNumbers_left (w : Value) : Refuses fun v => onNumbers operator ints floats v w :=
  fun a _ => ⟨a.fault, rfl⟩

theorem refuses_onNumbers_right (v : Value) : Refuses fun w => onNumbers operator ints floats v w := by
  intro a _
  obtain ⟨fault, refused⟩ := exists_operandFault v a
  exact ⟨fault, by simp only [onNumbers, refused]⟩

theorem refuses_signed (sign : String) (ints : Int → Int) (floats : Binary64 → Binary64) :
    Refuses (signed sign ints floats) :=
  fun a _ => ⟨a.fault, rfl⟩

end Numbers

theorem refuses_add_left (w : Value) : Refuses fun v => add v w := fun a _ => ⟨a.fault, rfl⟩

theorem refuses_add_right (v : Value) : Refuses fun w => add v w := by
  intro a _
  obtain ⟨fault, refused⟩ := exists_operandFault v a
  exact ⟨fault, by simp only [add, onNumbers, refused]⟩

theorem refuses_mul_left (w : Value) : Refuses fun v => mul v w := fun a _ => ⟨a.fault, rfl⟩

theorem refuses_mul_right (v : Value) : Refuses fun w => mul v w := by
  intro a _
  obtain ⟨fault, refused⟩ := exists_operandFault v a
  exact ⟨fault, by simp only [mul, onNumbers, refused]⟩

theorem refuses_sub_left (w : Value) : Refuses fun v => sub v w := by
  intro a strict
  obtain ⟨fault, failed⟩ := refuses_allItems a strict
  cases w with
  | view part entries =>
      cases part with
      | values => exact ⟨a.fault, rfl⟩
      | _ => exact ⟨fault, by simp only [sub, failed]; rfl⟩
  | _ => exact ⟨a.fault, rfl⟩

theorem refuses_sub_right (v : Value) : Refuses fun w => sub v w := by
  intro a strict
  obtain ⟨fault, failed⟩ := refuses_allItems a strict
  cases v with
  | undefined b => exact ⟨b.fault, rfl⟩
  | view part entries =>
      cases part with
      | values => exact ⟨a.fault, rfl⟩
      | _ => exact ⟨fault, by simp only [sub, failed]; rfl⟩
  | _ => exact ⟨a.fault, rfl⟩

theorem refuses_mod_left (w : Value) : Refuses fun v => mod v w := fun a _ => ⟨a.fault, rfl⟩

/-! ### Comparisons -/

theorem refuses_equal_left (w : Value) : Refuses fun v => equal v w := by
  intro a strict
  refine ⟨a.fault, ?_⟩
  cases w with
  | undefined b => simp only [equal, absentFault?, if_pos strict]
  | _ => simp only [equal, absentFault?, if_pos strict]

theorem refuses_equal_right (v : Value) : Refuses fun w => equal v w := by
  intro b strict
  cases v with
  | undefined a =>
      cases lenient : a.strict with
      | true => exact ⟨a.fault, by simp only [equal, absentFault?, lenient, if_pos]⟩
      | false => exact ⟨b.fault, by simp [equal, absentFault?, lenient, strict]⟩
  | group key members => exact ⟨b.fault, by simp only [equal, tupleOf?, absentFault?, if_pos strict]⟩
  | _ => exact ⟨b.fault, by simp only [equal, absentFault?, if_pos strict]⟩

theorem refuses_ordered_left (test : OrderTest) (w : Value) : Refuses fun v => ordered test v w := by
  intro a strict
  refine ⟨a.fault, ?_⟩
  cases w <;> rfl

theorem refuses_ordered_right (test : OrderTest) (v : Value) : Refuses fun w => ordered test v w := by
  intro b strict
  cases v <;> exact ⟨_, rfl⟩

theorem refuses_contains (v : Value) : Refuses fun container => contains container v := by
  intro a strict
  exact ⟨a.fault, by simp only [contains, if_pos strict]⟩

/-! ### Attributes, items and stretches -/

theorem refuses_getAttribute {name : String} (known : name ∉ commonReserved) :
    Refuses fun v => getAttribute v name := by
  intro a _
  have other : ¬commonReserved.contains name = true := by rwa [List.contains_iff_mem]
  exact ⟨a.fault, by simp only [getAttribute, if_neg other]⟩

theorem refuses_getItem (key : Value) : Refuses fun v => getItem v key :=
  fun a _ => ⟨a.fault, rfl⟩

theorem refuses_slice (start stop step : Value) : Refuses fun v => slice v start stop step :=
  fun a _ => ⟨a.fault, rfl⟩

end Stepwise.Value
