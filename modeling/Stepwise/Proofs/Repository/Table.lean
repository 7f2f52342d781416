import Mathlib.Data.List.Perm.Basic
import Stepwise.Proofs.Lookup
import Stepwise.Repository.Server

/-!
Tables: what stands under a name after another one was set or removed, and tables that hold the data of
some items under the names of the items.
-/

namespace Stepwise.Table

variable {α β : Type} {t : Table α} {key name other : String} {a : α}

/-! ### What stands under a name -/

theorem find?_replaced : (t.map fun e => if e.1 == name then (name, a) else e).find? (·.1 == other) =
    (t.find? (·.1 == other)).map fun e => if e.1 == name then (name, a) else e := by
  rw [List.find?_map]
  congr 1
  refine congrFun (congrArg List.find? (funext fun e => ?_)) t
  by_cases same : e.1 = name
  · simp only [Function.comp_apply, same, beq_self_eq_true, if_true]
  · simp only [Function.comp_apply, beq_false_of_ne same, Bool.false_eq_true, if_false]

theorem get?_set_self (t : Table α) (name : String) (a : α) : (t.set name a).get? name = some a := by
  rw [get?, set]
  split
  · rename_i present
    obtain ⟨e, found⟩ := Option.isSome_iff_exists.mp (List.find?_isSome.mpr (List.any_eq_true.mp present))
    have here : (e.1 == name) = true := (List.find?_some found :)
    rw [find?_replaced, found, Option.map_some, if_pos here, Option.map_some]
  · rename_i absent
    have missing : t.find? (·.1 == name) = none :=
      List.find?_eq_none.mpr fun e member same => absent (List.any_eq_true.mpr ⟨e, member, same⟩)
    rw [List.find?_append, missing, Option.none_or, List.find?_cons, beq_self_eq_true, Option.map_some]

theorem get?_set_of_ne (apart : other ≠ name) : (t.set name a).get? other = t.get? other := by
  rw [get?, set]
  split
  · rw [find?_replaced, get?, Option.map_map]
    cases found : t.find? (·.1 == other) with
    | none => rfl
    | some e =>
        have here : e.1 = other := eq_of_beq (List.find?_some found :)
        have passed : (e.1 == name) = false := beq_false_of_ne (here ▸ apart)
        simp only [Option.map_some, Function.comp_apply, passed, Bool.false_eq_true, if_false]
  · rw [@Lookup.find?_snoc_of_ne _ Prod.fst t (name, a) other apart.symm, get?]

theorem get?_erase_self (t : Table α) (name : String) : (t.erase name).get? name = none := by
  rw [get?, Option.map_eq_none_iff, List.find?_eq_none]
  intro e member same
  exact bne_iff_ne.mp (List.mem_filter.mp member).2 (eq_of_beq same)

theorem get?_erase_of_ne (apart : other ≠ name) : (t.erase name).get? other = t.get? other := by
  have kept : (fun e : String × α => decide ((e.1 != name) = true ∧ (e.1 == other) = true)) =
      (·.1 == other) := by
    funext e
    by_cases same : e.1 = other
    · simp only [same, bne_iff_ne, ne_eq, apart, not_false_eq_true, beq_self_eq_true, and_self,
        decide_true]
    · simp only [beq_false_of_ne same, Bool.false_eq_true, and_false, decide_false]
  rw [get?, erase, List.find?_filter, kept, get?]

theorem getD_setIn (t : Table (Table α)) (key name : String) (a : α) :
    ((t.setIn key name a).get? key).getD [] = ((t.get? key).getD []).set name a := by
  rw [setIn, get?_set_self, Option.getD_some]

theorem getD_eraseIn (t : Table (Table α)) (key name : String) :
    ((t.eraseIn key name).get? key).getD [] = ((t.get? key).getD []).erase name := by
  rw [eraseIn]
  cases found : t.get? key with
  | none =>
      dsimp only
      rw [found]
      rfl
  | some inner => rw [get?_set_self, Option.getD_some, Option.getD_some]

/-! ### Tables of items -/

/-- Setting a name takes out what stood under it and puts the new data in. -/
theorem set_perm (distinct : (t.map (·.1)).Nodup) : (t.set name a).Perm (t.erase name ++ [(name, a)]) := by
  rw [set, erase]
  by_cases present : t.any (·.1 == name) = true
  · rw [if_pos present]
    obtain ⟨e, member, same⟩ := List.any_eq_true.mp present
    obtain rfl : e.1 = name := eq_of_beq same
    obtain ⟨pre, post, rfl, others⟩ := Lookup.exists_filter_around distinct member
    have untouched : ∀ f ∈ pre ++ post, (if f.1 == e.1 then (e.1, a) else f) = f := by
      intro f inside
      rw [← others] at inside
      rw [if_neg (fun equal => bne_iff_ne.mp (List.mem_filter.mp inside).2 (eq_of_beq equal))]
    rw [others, List.map_append, List.map_cons, if_pos (beq_self_eq_true _),
      List.map_congr_left (fun f before => untouched f (List.mem_append_left post before)),
      List.map_congr_left (fun f after => untouched f (List.mem_append_right pre after)),
      List.map_id', List.map_id']
    exact List.perm_middle.trans (List.perm_append_singleton _ _).symm
  · have absent : name ∉ t.map (·.1) := by
      rw [List.mem_map]
      rintro ⟨e, member, same⟩
      exact present (List.any_eq_true.mpr ⟨e, member, beq_iff_eq.mpr same⟩)
    rw [if_neg present, Lookup.filter_of_not_mem absent]

/-- The table holds the data of each item under the name of the item, and nothing else. -/
def Files (t : Table α) (name : β → String) (data : β → α) (items : List β) : Prop :=
  t.Perm (items.map fun b => (name b, data b))

variable {label : β → String} {data : β → α} {items : List β}

theorem files_nil : Files ([] : Table α) label data [] := List.Perm.refl _

namespace Files

theorem names (files : t.Files label data items) : (t.map (·.1)).Perm (items.map label) := by
  have mapped := files.map (·.1)
  rwa [List.map_map] at mapped

theorem mem_iff (files : t.Files label data items) {e : String × α} :
    e ∈ t ↔ ∃ b ∈ items, (label b, data b) = e :=
  (List.Perm.mem_iff files).trans List.mem_map

theorem get?_eq (files : t.Files label data items) (distinct : (items.map label).Nodup)
    (wanted : String) : t.get? wanted = (items.find? (label · == wanted)).map data := by
  have names : (t.map (·.1)).Nodup := files.names.nodup_iff.mpr distinct
  cases found : items.find? (label · == wanted) with
  | none =>
      have absent : wanted ∉ t.map (·.1) := by
        rw [files.names.mem_iff, List.mem_map]
        rintro ⟨b, member, same⟩
        exact Lookup.ne_of_find?_eq_none found b member same
      rw [get?, Lookup.find?_of_not_mem absent]
      rfl
  | some b =>
      obtain ⟨member, rfl⟩ := (Lookup.find?_eq_some_iff distinct).mp found
      have filed : (label b, data b) ∈ t := files.mem_iff.mpr ⟨b, member, rfl⟩
      rw [get?, (Lookup.find?_eq_some_iff names).mpr ⟨filed, rfl⟩]
      rfl

theorem get?_eq_some_iff (files : t.Files label data items) (distinct : (items.map label).Nodup)
    {wanted : String} : t.get? wanted = some a ↔ ∃ b ∈ items, label b = wanted ∧ data b = a := by
  rw [files.get?_eq distinct, Option.map_eq_some_iff]
  simp only [Lookup.find?_eq_some_iff distinct, and_assoc]

theorem erase (files : t.Files label data items) (unwanted : String) :
    (t.erase unwanted).Files label data (items.filter (label · != unwanted)) := by
  have kept := List.Perm.filter (·.1 != unwanted) files
  rwa [List.filter_map] at kept

theorem set (files : t.Files label data items) (distinct : (items.map label).Nodup) (b : β) :
    (t.set (label b) (data b)).Files label data (items.filter (label · != label b) ++ [b]) := by
  have names : (t.map (·.1)).Nodup := files.names.nodup_iff.mpr distinct
  have replaced := (set_perm (a := data b) names).trans ((files.erase (label b)).append_right _)
  rwa [Files, List.map_append, List.map_singleton]

end Files

end Stepwise.Table
