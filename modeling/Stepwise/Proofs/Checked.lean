import Mathlib.Data.List.Basic
import Mathlib.Data.List.Forall2
import Stepwise.Fault

/-!
Computations that may end with a fault: what one that went through has done on the way.
-/

namespace Stepwise

theorem bind_eq_ok {ε α β : Type} {x : Except ε α} {f : α → Except ε β} {b : β} :
    (x >>= f) = .ok b ↔ ∃ a, x = .ok a ∧ f a = .ok b := by
  cases x with
  | error e => exact iff_of_false (by rintro ⟨⟩) (by rintro ⟨_, ⟨⟩, _⟩)
  | ok a =>
      constructor
      · intro passed
        exact ⟨a, rfl, passed⟩
      · rintro ⟨_, same, passed⟩
        cases same
        exact passed

theorem bind_eq_error {ε α β : Type} {x : Except ε α} {f : α → Except ε β} {e : ε} :
    (x >>= f) = .error e ↔ x = .error e ∨ ∃ a, x = .ok a ∧ f a = .error e := by
  cases x with
  | error cause =>
      constructor
      · intro failed
        cases failed
        exact Or.inl rfl
      · rintro (failed | ⟨_, absent, _⟩)
        · cases failed
          rfl
        · cases absent
  | ok a =>
      constructor
      · exact fun failed => Or.inr ⟨a, rfl, failed⟩
      · rintro (absent | ⟨_, same, failed⟩)
        · cases absent
        · cases same
          exact failed

/-- Where the result passes a test there is a result. -/
theorem exists_of_toOption_any {ε α : Type} {x : Except ε α} {p : α → Bool}
    (holds : x.toOption.any p = true) : ∃ a, x = .ok a ∧ p a = true := by
  cases x with
  | error e => cases holds
  | ok a => exact ⟨a, rfl, holds⟩

namespace Checked

variable {α β : Type} {items : List α} {f g : α → Checked β} {results : List β}

/-! ### One item after the other -/

theorem mapM_congr (same : ∀ a ∈ items, f a = g a) : items.mapM f = items.mapM g := by
  induction items with
  | nil => rfl
  | cons a rest ih =>
      rw [List.mapM_cons, List.mapM_cons, same a List.mem_cons_self,
        ih (fun b later => same b (List.mem_cons_of_mem a later))]

theorem exists_mapM_eq_error_iff :
    (∃ e, items.mapM f = .error e) ↔ ∃ a ∈ items, ∃ e, f a = .error e := by
  induction items with
  | nil =>
      constructor
      · rintro ⟨e, failed⟩
        cases failed
      · rintro ⟨a, absent, -⟩
        cases absent
  | cons a rest ih =>
      rw [List.mapM_cons, List.exists_mem_cons_iff, ← ih]
      cases f a with
      | error e => exact iff_of_true ⟨e, rfl⟩ (Or.inl ⟨e, rfl⟩)
      | ok b =>
          cases rest.mapM f with
          | error e => exact iff_of_true ⟨e, rfl⟩ (Or.inr ⟨e, rfl⟩)
          | ok others =>
              refine iff_of_false ?_ ?_
              · rintro ⟨e, failed⟩
                cases failed
              · rintro (⟨e, failed⟩ | ⟨e, failed⟩)
                · cases failed
                · cases failed

theorem mapM_cons_eq_ok {a : α} : (a :: items).mapM f = .ok results ↔
    ∃ b others, f a = .ok b ∧ items.mapM f = .ok others ∧ results = b :: others := by
  rw [List.mapM_cons]
  constructor
  · intro done
    obtain ⟨b, first, done⟩ := bind_eq_ok.mp done
    obtain ⟨others, later, done⟩ := bind_eq_ok.mp done
    cases done
    exact ⟨b, others, first, later, rfl⟩
  · rintro ⟨b, others, first, later, rfl⟩
    rw [first, later]
    rfl

/-- The results are those of the items, in their order. -/
theorem mapM_eq_ok_iff :
    items.mapM f = .ok results ↔ List.Forall₂ (fun a b => f a = .ok b) items results := by
  induction items generalizing results with
  | nil =>
      rw [List.forall₂_nil_left_iff]
      constructor
      · intro done
        cases done
        rfl
      · rintro rfl
        rfl
  | cons a rest ih =>
      rw [mapM_cons_eq_ok, List.forall₂_cons_left_iff]
      constructor
      · rintro ⟨b, others, first, later, rfl⟩
        exact ⟨b, others, first, ih.mp later, rfl⟩
      · rintro ⟨b, others, first, later, rfl⟩
        exact ⟨b, others, first, ih.mpr later, rfl⟩

theorem mapM_append_eq_ok {more : List α} : (items ++ more).mapM f = .ok results ↔
    ∃ first second, items.mapM f = .ok first ∧ more.mapM f = .ok second ∧ results = first ++ second := by
  induction items generalizing results with
  | nil =>
      constructor
      · intro done
        exact ⟨[], results, rfl, done, rfl⟩
      · rintro ⟨first, second, here, done, rfl⟩
        cases here
        exact done
  | cons a rest ih =>
      rw [List.cons_append, mapM_cons_eq_ok]
      constructor
      · rintro ⟨b, others, here, done, rfl⟩
        obtain ⟨first, second, before, after, rfl⟩ := ih.mp done
        exact ⟨b :: first, second, mapM_cons_eq_ok.mpr ⟨b, first, here, before, rfl⟩, after, rfl⟩
      · rintro ⟨first, second, done, after, rfl⟩
        obtain ⟨b, before, here, begun, rfl⟩ := mapM_cons_eq_ok.mp done
        exact ⟨b, before ++ second, here, ih.mpr ⟨before, second, begun, after, rfl⟩, rfl⟩

/-- Every result comes from an item. -/
theorem exists_of_mapM (done : items.mapM f = .ok results) : ∀ b ∈ results, ∃ a ∈ items, f a = .ok b := by
  induction items generalizing results with
  | nil =>
      cases done
      exact List.forall_mem_nil _
  | cons a rest ih =>
      obtain ⟨b, others, first, later, rfl⟩ := mapM_cons_eq_ok.mp done
      rw [List.forall_mem_cons]
      refine ⟨⟨a, List.mem_cons_self, first⟩, fun c inside => ?_⟩
      obtain ⟨d, member, made⟩ := ih later c inside
      exact ⟨d, List.mem_cons_of_mem a member, made⟩

/-- Every item gives a result. -/
theorem exists_of_mem (done : items.mapM f = .ok results) : ∀ a ∈ items, ∃ b ∈ results, f a = .ok b := by
  induction items generalizing results with
  | nil => exact List.forall_mem_nil _
  | cons a rest ih =>
      obtain ⟨b, others, first, later, rfl⟩ := mapM_cons_eq_ok.mp done
      rw [List.forall_mem_cons]
      refine ⟨⟨b, List.mem_cons_self, first⟩, fun c inside => ?_⟩
      obtain ⟨d, member, made⟩ := ih later c inside
      exact ⟨d, List.mem_cons_of_mem b member, made⟩

/-- Where the first of two passes over the items has gone through, both can be made in one. -/
theorem mapM_of_mapM {γ : Type} {g : β → Checked γ} (done : items.mapM f = .ok results) :
    results.mapM g = items.mapM fun a => f a >>= g := by
  induction items generalizing results with
  | nil =>
      cases done
      rfl
  | cons a rest ih =>
      obtain ⟨b, others, first, later, rfl⟩ := mapM_cons_eq_ok.mp done
      rw [List.mapM_cons, List.mapM_cons, ih later, first]
      rfl

/-- Two passes over the items have the results of one, although they may end with another fault. -/
theorem mapM_bind_mapM_eq_ok_iff {γ : Type} {g : β → Checked γ} {ends : List γ} :
    (items.mapM f >>= fun bs => bs.mapM g) = .ok ends ↔ (items.mapM fun a => f a >>= g) = .ok ends := by
  cases first : items.mapM f with
  | ok results => rw [← mapM_of_mapM first]; rfl
  | error e =>
      refine iff_of_false (by rintro ⟨⟩) fun done => ?_
      obtain ⟨a, member, fault, failed⟩ := exists_mapM_eq_error_iff.mp ⟨e, first⟩
      obtain ⟨c, -, passed⟩ := exists_of_mem done a member
      rw [failed] at passed
      cases passed

/-- What holds at the start and is kept by the step of every item holds at the end. -/
theorem foldlM_induction {P : β → Prop} {step : β → α → Checked β} {start result : β}
    (done : items.foldlM step start = .ok result) (begun : P start)
    (kept : ∀ a ∈ items, ∀ b c, P b → step b a = .ok c → P c) : P result := by
  induction items generalizing start with
  | nil =>
      cases done
      exact begun
  | cons a rest ih =>
      rw [List.foldlM_cons] at done
      obtain ⟨next, first, done⟩ := bind_eq_ok.mp done
      rw [List.forall_mem_cons] at kept
      exact ih done (kept.1 start next begun first) kept.2

/-- The step of every item is taken. -/
theorem exists_of_mem_foldlM {step : β → α → Checked β} {start result : β}
    (done : items.foldlM step start = .ok result) : ∀ a ∈ items, ∃ b c, step b a = .ok c := by
  induction items generalizing start with
  | nil => exact List.forall_mem_nil _
  | cons a rest ih =>
      rw [List.foldlM_cons] at done
      obtain ⟨next, first, done⟩ := bind_eq_ok.mp done
      exact List.forall_mem_cons.mpr ⟨⟨start, next, first⟩, ih done⟩

end Checked

end Stepwise
