import Stepwise.Reference.Lookup

/-!
Stars in paths. A star stands for every index at once: what it finds in a list are the finds of its
indices, one after the other. Behind a further star these are lists themselves and give way to their
items, once.
-/

namespace Stepwise

namespace Path

theorem hasEach_cons_eq_false {segment : Segment} {rest : Path} :
    hasEach (segment :: rest) = false ↔ segment ≠ .each ∧ hasEach rest = false := by
  rw [hasEach, List.contains_cons, Bool.or_eq_false_iff, beq_eq_false_iff_ne, ne_comm]
  rfl

end Path

namespace Value

variable {v w x : Value} {p q rest : Path} {segment : Segment} {items : List Value}

/-! ### Paths without stars -/

theorem lookup_cons (other : segment ≠ .each) :
    lookup (segment :: rest) v = lookup rest (v.child segment) := by
  cases segment with
  | each => exact absurd rfl other
  | key name => rw [lookup]; exact Segment.noConfusion
  | index n => rw [lookup]; exact Segment.noConfusion

/-- Behind a path without stars a lookup begins afresh. -/
theorem lookup_append (plain : Path.hasEach p = false) (q : Path) (v : Value) :
    lookup (p ++ q) v = lookup q (lookup p v) := by
  induction p generalizing v with
  | nil => rfl
  | cons segment rest ih =>
      obtain ⟨other, later⟩ := Path.hasEach_cons_eq_false.mp plain
      rw [List.cons_append, lookup_cons other, lookup_cons other, ih later]

/-- A value has something at the end of a path without stars: each name on the way is a name in a mapping,
and each number is that of an item. -/
inductive Has : Value → Path → Value → Prop where
  | here {v : Value} : Has v [] v
  | entry {entries : Entries} {segment : Segment} {name : String} {w x : Value} {rest : Path}
      (named : segment.name? = some name) (found : lookupText? entries name = some w)
      (further : Has w rest x) : Has (.dict entries) (segment :: rest) x
  | item {v w x : Value} {items : List Value} {n : Nat} {rest : Path} (sequence : v.sequence? = some items)
      (found : items[n]? = some w) (further : Has w rest x) : Has v (.index n :: rest) x

theorem child_of_sequence (sequence : v.sequence? = some items) :
    v.child (.index n) = items[n]?.getD null := by
  cases v with
  | dict entries => cases sequence
  | _ => simp only [child, sequence]

theorem lookup_of_has (has : v.Has p x) : lookup p v = x := by
  induction has with
  | here => rfl
  | @entry entries segment name w x rest named found further ih =>
      have other : segment ≠ .each := by
        rintro rfl
        cases named
      rw [lookup_cons other, child, named, Option.bind_some, found, Option.getD_some, ih]
  | item sequence found further ih =>
      rw [lookup_cons Segment.noConfusion, child_of_sequence sequence, found, Option.getD_some, ih]

/-- What a segment leads to is there, or it is nothing. -/
theorem has_child (other : segment ≠ .each) (v : Value) :
    v.child segment = null ∨ v.Has [segment] (v.child segment) := by
  by_cases mapping : ∃ entries, v = .dict entries
  · obtain ⟨entries, rfl⟩ := mapping
    cases named : segment.name? with
    | none =>
        left
        rw [child, named]
        rfl
    | some name =>
        rw [child, named, Option.bind_some]
        cases found : lookupText? entries name with
        | none => exact Or.inl rfl
        | some w => exact Or.inr (.entry named found .here)
  · cases segment with
    | each => exact absurd rfl other
    | key name =>
        left
        cases v with
        | dict entries => exact absurd ⟨entries, rfl⟩ mapping
        | _ => rfl
    | index n =>
        cases sequence : v.sequence? with
        | none =>
            left
            cases v with
            | dict entries => exact absurd ⟨entries, rfl⟩ mapping
            | _ => simp only [child, sequence]
        | some items =>
            rw [child_of_sequence sequence]
            cases found : items[n]? with
            | none => exact Or.inl rfl
            | some w => exact Or.inr (.item sequence found .here)

theorem Has.trans (first : v.Has p w) (further : w.Has q x) : v.Has (p ++ q) x := by
  induction first with
  | here => exact further
  | entry named found _ ih => exact .entry named found (ih further)
  | item sequence found _ ih => exact .item sequence found (ih further)

/-- A value that lacks a path has nothing there. -/
theorem lookup_of_lacks (plain : Path.hasEach p = false) (lacks : ¬∃ x, v.Has p x) :
    lookup p v = null := by
  induction p generalizing v with
  | nil => exact absurd ⟨v, .here⟩ lacks
  | cons segment rest ih =>
      obtain ⟨other, later⟩ := Path.hasEach_cons_eq_false.mp plain
      rw [lookup_cons other]
      rcases has_child other v with none | first
      · rw [none, lookup_null]
      · exact ih later fun ⟨x, further⟩ => lacks ⟨x, first.trans further⟩

/-! ### Stars -/

/-- What takes the place of a value among spliced ones: the items of a list, and all else itself. -/
def parts : Value → List Value
  | list items => items
  | v => [v]

theorem spliced_eq_flatMap (found : List Value) : spliced found = found.flatMap parts := by
  induction found with
  | nil => rfl
  | cons v rest ih =>
      rw [List.flatMap_cons, ← ih]
      cases v <;> rfl

/-- What all indices of a sequence find, in order. -/
theorem map_lookup_index (sequence : v.sequence? = some items) (q : Path) :
    (List.range items.length).map (fun i => lookup (.index i :: q) v) = items.map (lookup q) := by
  apply List.ext_getElem
  · rw [List.length_map, List.length_map, List.length_range]
  · intro i inRange inItems
    rw [List.length_map] at inItems
    rw [List.getElem_map, List.getElem_map, List.getElem_range, lookup_cons Segment.noConfusion,
      child_of_sequence sequence, List.getElem?_eq_getElem inItems, Option.getD_some]

theorem lookup_each (sequence : v.sequence? = some items) (q : Path) :
    lookup (.each :: q) v =
      list (if Path.hasEach q then (items.map (lookup q)).flatMap parts else items.map (lookup q)) := by
  rw [lookup, sequence]
  simp only [spliced_eq_flatMap]

theorem lookup_each_of_other (other : v.sequence? = none) (q : Path) :
    lookup (.each :: q) v = null := by
  rw [lookup, other]

/-- A star behind a path without stars finds what all indices in its place find. Where the path leads to a
list or a tuple, its finds are those of the indices from the first item to the last, one for each item,
and nothing for an item that lacks the rest of the path; with a further star behind it, the items of the
finds that are lists stand in their place. Where the path leads to anything else, nothing is found. -/
theorem lookup_each_eq_indices (v : Value) {p : Path} (plain : Path.hasEach p = false) (q : Path) :
    (∀ items, (lookup p v).sequence? = some items → ∃ found : List Value,
      found = (List.range items.length).map (fun i => lookup (p ++ [.index i] ++ q) v) ∧
      found.length = items.length ∧
      (Path.hasEach q = false → lookup (p ++ [.each] ++ q) v = .list found ∧
        ∀ (i : Nat) (item : Value), items[i]? = some item → (¬∃ x, item.Has q x) →
          found[i]? = some null) ∧
      (Path.hasEach q = true → lookup (p ++ [.each] ++ q) v = .list (found.flatMap parts))) ∧
    ((lookup p v).sequence? = none → lookup (p ++ [.each] ++ q) v = null) := by
  have behind (segment : Segment) :
      lookup (p ++ [segment] ++ q) v = lookup (segment :: q) (lookup p v) := by
    rw [List.append_assoc, lookup_append plain]
    rfl
  refine ⟨?_, fun other => (behind .each).trans (lookup_each_of_other other q)⟩
  intro items sequence
  have finds : (List.range items.length).map (fun i => lookup (p ++ [.index i] ++ q) v) =
      items.map (lookup q) := by
    simp only [behind]
    exact map_lookup_index sequence q
  rw [finds]
  refine ⟨_, rfl, List.length_map _, ?_, ?_⟩
  · intro last
    refine ⟨by rw [behind, lookup_each sequence, last]; rfl, ?_⟩
    intro i item present lacks
    rw [List.getElem?_map, present, Option.map_some, lookup_of_lacks last lacks]
  · intro further
    rw [behind, lookup_each sequence, further]
    rfl

/-- Rows of cells; one of them has no cells, and one is no mapping. -/
def rows : Value := .ofFields [("rows", .list [
  .ofFields [("cells", .list [.int 1, .int 2])], .ofFields [], .tuple [.int 3],
  .ofFields [("cells", .list [.list [.int 4], .int 5])]])]

/-- The cells of all rows stand one after the other, with nothing for the rows that lack them. -/
theorem lookup_each_eq_indices_rows :
    lookup ([.key "rows"] ++ [.each] ++ [.key "cells", .each]) rows =
      .list [.int 1, .int 2, .null, .null, .list [.int 4], .int 5] ∧
    lookup ([.key "rows"] ++ [.each] ++ [.index 0]) rows = .list [.null, .null, .int 3, .null] := by
  obtain ⟨cells, -⟩ := lookup_each_eq_indices rows (p := [.key "rows"]) rfl [.key "cells", .each]
  obtain ⟨firsts, -⟩ := lookup_each_eq_indices rows (p := [.key "rows"]) rfl [.index 0]
  obtain ⟨found, rfl, -, -, spliced⟩ := cells _ rfl
  obtain ⟨_, rfl, -, plain, -⟩ := firsts _ rfl
  exact ⟨spliced rfl, (plain rfl).1⟩

end Value

end Stepwise
