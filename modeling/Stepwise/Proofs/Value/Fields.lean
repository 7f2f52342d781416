import Stepwise.Proofs.Lookup
import Stepwise.Value.Fields

/-!
What is found under a name after a name is set, and in the mapping that fields make.
-/

namespace Stepwise

namespace Fields

variable {fields : Fields} {name other : String} {v : Value}

theorem has_iff : has fields name = true ↔ name ∈ names fields := by
  simp only [has, names, List.any_eq_true, List.mem_map, beq_iff_eq]

theorem get?_of_not_mem (absent : name ∉ names fields) : get? fields name = none := by
  rw [get?, Lookup.find?_of_not_mem absent]
  rfl

theorem get?_of_mem (distinct : (names fields).Nodup) (member : (name, v) ∈ fields) :
    get? fields name = some v := by
  rw [get?, Lookup.find?_of_mem distinct member]
  rfl

theorem mem_of_get? (found : get? fields name = some v) : (name, v) ∈ fields := by
  obtain ⟨field, first, rfl⟩ := Option.map_eq_some_iff.mp found
  have same : field.1 = name := by simpa using List.find?_some first
  exact same ▸ List.mem_of_find?_eq_some first

theorem names_append (left right : Fields) : names (left ++ right) = names left ++ names right :=
  List.map_append

theorem get?_append (left right : Fields) :
    get? (left ++ right) name = (get? left name).or (get? right name) := by
  simp only [get?, List.find?_append]
  cases left.find? (·.1 == name) <;> rfl

theorem get?_set_self : get? (set fields name v) name = some v := by
  unfold set
  by_cases known : has fields name = true
  · rw [if_pos known]
    induction fields with
    | nil => cases known
    | cons field rest ih =>
        by_cases same : field.1 = name
        · simp [get?, same]
        · have later : has rest name = true := by
            rw [has_iff] at known ⊢
            exact (List.mem_cons.mp known).resolve_left (fun equal => same equal.symm)
          have found := ih later
          simpa [get?, same] using found
  · rw [if_neg known, get?_append, get?_of_not_mem (fun member => known (has_iff.mpr member))]
    simp [get?]

theorem get?_set_of_ne (apart : other ≠ name) :
    get? (set fields other v) name = get? fields name := by
  unfold set
  split
  · rename_i known
    clear known
    induction fields with
    | nil => rfl
    | cons field rest ih =>
        by_cases same : field.1 = other
        · have passed : field.1 ≠ name := same ▸ apart
          simpa [get?, same, apart, passed] using ih
        · by_cases here : field.1 = name
          · simp [get?, here, apart.symm]
          · simpa [get?, same, here] using ih
  · rw [get?_append]
    simp [get?, apart]

theorem get?_set : get? (set fields other v) name =
    if other = name then some v else get? fields name := by
  by_cases same : other = name
  · rw [if_pos same, same, get?_set_self]
  · rw [if_neg same, get?_set_of_ne same]

/-- Of the fields that are merged in the last of a name counts. -/
theorem get?_merge (others : Fields) :
    get? (merge fields others) name = (get? others.reverse name).or (get? fields name) := by
  induction others generalizing fields with
  | nil => rfl
  | cons field rest ih =>
      have last : get? [field] name = if field.1 = name then some field.2 else none := by
        by_cases same : field.1 = name <;> simp [get?, same]
      have merged : merge fields (field :: rest) = merge (set fields field.1 field.2) rest := rfl
      rw [merged, ih, get?_set, List.reverse_cons, get?_append, last, Option.or_assoc]
      by_cases same : field.1 = name <;> simp [same]

theorem has_eq_isSome : has fields name = (get? fields name).isSome := by
  rw [Bool.eq_iff_iff, has, get?, Option.isSome_map, List.any_eq_true, List.find?_isSome]

theorem has_merge (others : Fields) :
    has (merge fields others) name = (has others name || has fields name) := by
  have reversed : has others.reverse name = has others name := List.any_reverse
  rw [has_eq_isSome, get?_merge, Option.isSome_or, ← has_eq_isSome, ← has_eq_isSome, reversed]

end Fields

namespace Value

theorem sameKey_text (s t : String) : sameKey (.text s) (.text t) = (s == t) := by
  simp [sameKey, sameScalar?, numeric?, textOf?]

/-- A name finds the same in fields and in the mapping that they make. -/
theorem lookupText?_fields (fields : Fields) (name : String) :
    lookupText? (fields.map fun f => (.text f.1, f.2)) name = Fields.get? fields name := by
  simp only [lookupText?, lookup?, Fields.get?, List.find?_map, Function.comp_def, sameKey_text,
    Option.map_map]

end Value

end Stepwise
