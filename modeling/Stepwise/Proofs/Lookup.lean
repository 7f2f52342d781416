import Mathlib.Data.List.Nodup

/-!
Looking items up by a name in a list in which no two items share one; what is left of a list where each
item is kept once, and its items by what they are called.
-/

namespace Stepwise.Lookup

variable {α : Type} {name : α → String} {items : List α}

/-- An item is what is found under its name. -/
theorem find?_of_mem (distinct : (items.map name).Nodup) {a : α} (member : a ∈ items) :
    items.find? (name · == name a) = some a := by
  cases found : items.find? (name · == name a) with
  | none =>
      rw [List.find?_eq_none] at found
      exact absurd (beq_self_eq_true (name a)) (found a member)
  | some b =>
      have same : name b = name a := by simpa using List.find?_some found
      rw [List.inj_on_of_nodup_map distinct (List.mem_of_find?_eq_some found) member same]

theorem find?_of_not_mem {wanted : String} (absent : wanted ∉ items.map name) :
    items.find? (name · == wanted) = none := by
  rw [List.find?_eq_none]
  intro a member same
  exact absent (List.mem_map.mpr ⟨a, member, eq_of_beq same⟩)

theorem ne_of_find?_eq_none {wanted : String} (missing : items.find? (name · == wanted) = none) :
    ∀ a ∈ items, name a ≠ wanted :=
  fun a member same => List.find?_eq_none.mp missing a member (beq_iff_eq.mpr same)

theorem find?_eq_some_iff (distinct : (items.map name).Nodup) {wanted : String} {a : α} :
    items.find? (name · == wanted) = some a ↔ a ∈ items ∧ name a = wanted := by
  constructor
  · intro found
    exact ⟨List.mem_of_find?_eq_some found, eq_of_beq (List.find?_some found :)⟩
  · rintro ⟨member, rfl⟩
    exact find?_of_mem distinct member

theorem filter_of_not_mem {unwanted : String} (absent : unwanted ∉ items.map name) :
    items.filter (name · != unwanted) = items := by
  rw [List.filter_eq_self]
  intro a member
  rw [bne_iff_ne]
  intro same
  exact absent (List.mem_map.mpr ⟨a, member, same⟩)

/-- Taking out what has the name of an item takes out the item alone. -/
theorem exists_filter_around (distinct : (items.map name).Nodup) {a : α} (member : a ∈ items) :
    ∃ pre post, items = pre ++ a :: post ∧ items.filter (name · != name a) = pre ++ post := by
  obtain ⟨pre, post, rfl⟩ := List.append_of_mem member
  rw [List.map_append, List.map_cons, List.nodup_middle, List.nodup_cons, List.mem_append,
    not_or] at distinct
  obtain ⟨⟨before, after⟩, -⟩ := distinct
  refine ⟨pre, post, rfl, ?_⟩
  rw [List.filter_append, List.filter_cons, bne_self_eq_false, if_neg Bool.false_ne_true,
    filter_of_not_mem before, filter_of_not_mem after]

/-- Behind the items an item of another name is passed over. -/
theorem find?_snoc_of_ne {a : α} {wanted : String} (apart : name a ≠ wanted) :
    (items ++ [a]).find? (name · == wanted) = items.find? (name · == wanted) := by
  have passed : [a].find? (name · == wanted) = none := by
    rw [List.find?_cons, beq_false_of_ne apart]
    rfl
  rw [List.find?_append, passed, Option.or_none]

theorem find?_snoc_self {wanted : String} (fresh : wanted ∉ items.map name) {a : α}
    (same : name a = wanted) : (items ++ [a]).find? (name · == wanted) = some a := by
  rw [List.find?_append, find?_of_not_mem fresh, Option.none_or, List.find?_cons, same,
    beq_self_eq_true]

/-! ### Each item once -/

section EraseDups

variable {α : Type} [BEq α]

theorem eraseDups_sublist (items : List α) : items.eraseDups.Sublist items := by
  cases items with
  | nil => exact List.Sublist.refl _
  | cons a rest =>
      rw [List.eraseDups_cons]
      exact .cons_cons a ((eraseDups_sublist _).trans List.filter_sublist)
termination_by items.length
decreasing_by exact Nat.lt_succ_of_le (List.length_filter_le _ _)

variable [LawfulBEq α]

theorem nodup_eraseDups (items : List α) : items.eraseDups.Nodup := by
  cases items with
  | nil => exact List.nodup_nil
  | cons a rest =>
      rw [List.eraseDups_cons, List.nodup_cons]
      refine ⟨?_, nodup_eraseDups _⟩
      intro again
      have passed := (List.mem_filter.mp (List.mem_eraseDups.mp again)).2
      rw [beq_self_eq_true] at passed
      cases passed
termination_by items.length
decreasing_by exact Nat.lt_succ_of_le (List.length_filter_le _ _)

theorem eraseDups_of_nodup {items : List α} (distinct : items.Nodup) : items.eraseDups = items := by
  induction items with
  | nil => rfl
  | cons a rest ih =>
      obtain ⟨fresh, later⟩ := List.nodup_cons.mp distinct
      have all : rest.filter (fun b => !b == a) = rest := by
        rw [List.filter_eq_self]
        intro b member
        rw [beq_false_of_ne fun same : b = a => fresh (same ▸ member)]
        rfl
      rw [List.eraseDups_cons, all, ih later]

theorem length_eraseDups_eq_iff {items : List α} :
    items.eraseDups.length = items.length ↔ items.Nodup := by
  constructor
  · intro same
    rw [← (eraseDups_sublist items).eq_of_length same]
    exact nodup_eraseDups items
  · intro distinct
    rw [eraseDups_of_nodup distinct]

/-- An item at the end is kept unless it has come up before. -/
theorem eraseDups_snoc (items : List α) (a : α) :
    (items ++ [a]).eraseDups = if items.contains a then items.eraseDups else items.eraseDups ++ [a] := by
  rw [List.eraseDups_append, List.removeAll, List.filter_cons, List.filter_nil]
  change items.eraseDups ++ (if (!items.contains a) = true then [a] else []).eraseDups = _
  cases items.contains a with
  | true => exact List.append_nil _
  | false => rfl

end EraseDups

/-- Under distinct names, among which are those of all items, every item comes up once. -/
theorem flatMap_filter_perm {β : Type} [DecidableEq β] {label : α → β} {labels : List β}
    (distinct : labels.Nodup) {items : List α} (known : ∀ a ∈ items, label a ∈ labels) :
    (labels.flatMap fun l => items.filter (label · = l)).Perm items := by
  induction labels generalizing items with
  | nil =>
      cases items with
      | nil => exact List.Perm.refl _
      | cons a rest => cases known a List.mem_cons_self
  | cons l rest ih =>
      obtain ⟨fresh, distinct⟩ := List.nodup_cons.mp distinct
      have others : ∀ a ∈ items.filter (fun a => !decide (label a = l)), label a ∈ rest := by
        intro a member
        obtain ⟨inside, apart⟩ := List.mem_filter.mp member
        exact (List.mem_cons.mp (known a inside)).resolve_left (by simpa using apart)
      have same : (rest.flatMap fun m => items.filter (label · = m)) =
          rest.flatMap fun m => (items.filter (fun a => !decide (label a = l))).filter (label · = m) := by
        apply List.flatMap_congr
        intro m member
        rw [List.filter_filter]
        apply List.filter_congr
        intro a _
        by_cases here : label a = m
        · have apart : m ≠ l := by
            rintro rfl
            exact fresh member
          simp [here, apart]
        · simp [here]
      rw [List.flatMap_cons, same]
      exact ((ih distinct others).append_left _).trans (List.filter_append_perm _ _)

end Stepwise.Lookup
