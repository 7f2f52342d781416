import Stepwise.Proofs.Checked
import Stepwise.Proofs.Value.Fields
import Stepwise.Proofs.Value.Plain
import Stepwise.Script.Library

/-!
Groups by a field. The groups are named by the texts of the field, in the order in which these come up, and
share out the items among them in their order. Items are put into groups only if all of them have such a text.
-/

namespace Stepwise.Script.Library

open Value (list text dict int)

/-- The text that names the group of an item: its field, as it is shown. -/
def labelOf (key item : Value) : Checked String := do (← field item key).shown

/-- What a mapping lacks is shown as nothing is. -/
theorem labelOf_dict (entries : Entries) (name : String) : labelOf (text name) (dict entries) =
    ((Value.lookupText? entries name).getD .null).shown := rfl

/-- The groups of items with some labels: each label once, with the items that have it. -/
def groupsOf (key : Value) (items : List Value) (labels : List String) : List (String × List Value) :=
  labels.eraseDups.map fun label => (label, items.filter fun item => labelOf key item = .ok label)

/-- The mapping that groups make. -/
def filed (groups : List (String × List Value)) : Entries := groups.map fun g => (text g.1, list g.2)

variable {key item : Value} {items : List Value} {label : String} {labels : List String}

/-! ### One more item -/

theorem names_groupsOf : (groupsOf key items labels).map (·.1) = labels.eraseDups := by
  rw [groupsOf, List.map_map]
  exact List.map_id _

theorem lookup_filed (groups : List (String × List Value)) :
    Value.lookupText? (filed groups) label = (groups.find? (·.1 == label)).map fun g => list g.2 := by
  have fields := Value.lookupText?_fields (groups.map fun g => (g.1, list g.2)) label
  rw [List.map_map] at fields
  rw [filed]
  refine fields.trans ?_
  rw [Fields.get?, List.find?_map, Option.map_map]
  rfl

/-- The group of a label that has come up. -/
theorem find?_groupsOf (known : label ∈ labels) :
    (groupsOf key items labels).find? (·.1 == label) =
      some (label, items.filter fun item => labelOf key item = .ok label) := by
  have distinct : ((groupsOf key items labels).map (·.1)).Nodup := by
    rw [names_groupsOf]
    exact Lookup.nodup_eraseDups labels
  exact Lookup.find?_of_mem distinct (List.mem_map.mpr ⟨label, List.mem_eraseDups.mpr known, rfl⟩)

theorem find?_groupsOf_of_fresh (fresh : label ∉ labels) :
    (groupsOf key items labels).find? (·.1 == label) = none := by
  have absent : label ∉ (groupsOf key items labels).map (·.1) := by
    rwa [names_groupsOf, List.mem_eraseDups]
  exact Lookup.find?_of_not_mem absent

theorem filter_of_fresh (named : items.mapM (labelOf key) = .ok labels) (fresh : label ∉ labels) :
    (items.filter fun item => labelOf key item = .ok label) = [] := by
  rw [List.filter_eq_nil_iff]
  intro item member same
  obtain ⟨other, inside, own⟩ := Checked.exists_of_mem named item member
  rw [decide_eq_true_eq, own] at same
  exact fresh (Except.ok.inj same ▸ inside)

theorem any_filed (groups : List (String × List Value)) :
    ((filed groups).any fun e => Value.sameKey e.1 (text label)) = groups.any (·.1 == label) := by
  simp only [filed, List.any_map, Function.comp_def, Value.sameKey_text]

/-- An item joins the group of its label, or begins it. -/
theorem addToGroup_groupsOf (named : items.mapM (labelOf key) = .ok labels)
    (called : labelOf key item = .ok label) :
    addToGroup (filed (groupsOf key items labels)) label item =
      filed (groupsOf key (items ++ [item]) (labels ++ [label])) := by
  have joins (other : String) : ((items ++ [item]).filter fun item => labelOf key item = .ok other) =
      (items.filter fun item => labelOf key item = .ok other) ++ if label = other then [item] else [] := by
    rw [List.filter_append, List.filter_cons, called]
    by_cases same : label = other <;> simp [same]
  rw [addToGroup, lookup_filed]
  by_cases known : label ∈ labels
  · have there : (groupsOf key items labels).any (·.1 == label) = true := by
      rw [List.any_eq_true]
      exact ⟨_, List.mem_of_find?_eq_some (find?_groupsOf known), beq_self_eq_true label⟩
    rw [find?_groupsOf known, Option.map_some]
    dsimp only
    rw [Value.put, any_filed, if_pos there, filed, filed, groupsOf, groupsOf, Lookup.eraseDups_snoc,
      if_pos (List.contains_iff_mem.mpr known), List.map_map, List.map_map, List.map_map]
    apply List.map_congr_left
    intro other _
    simp only [Function.comp_apply, Value.sameKey_text, joins]
    by_cases same : label = other
    · subst same
      simp
    · simp [same, Ne.symm same]
  · have absent : (groupsOf key items labels).any (·.1 == label) = false := by
      rw [List.any_eq_false]
      intro g member
      exact List.find?_eq_none.mp (find?_groupsOf_of_fresh known) g member
    rw [find?_groupsOf_of_fresh known, Option.map_none]
    dsimp only
    have others : ∀ other ∈ labels.eraseDups, label ≠ other := by
      rintro other member rfl
      exact known (List.mem_eraseDups.mp member)
    rw [Value.put, any_filed, absent, if_neg Bool.false_ne_true, filed, filed, groupsOf, groupsOf,
      Lookup.eraseDups_snoc, if_neg (mt List.contains_iff_mem.mp known), List.map_append, List.map_append]
    congr 1
    · rw [List.map_map, List.map_map]
      apply List.map_congr_left
      intro other member
      simp [joins, others other member]
    · simp [joins, filter_of_fresh named known]

/-! ### All items -/

theorem foldlM_groupsOf {rest : List Value} (named : items.mapM (labelOf key) = .ok labels) :
    rest.foldlM (fun groups item => do return addToGroup groups (← labelOf key item) item)
        (filed (groupsOf key items labels)) =
      (rest.mapM (labelOf key)).map fun more => filed (groupsOf key (items ++ rest) (labels ++ more)) := by
  induction rest generalizing items labels with
  | nil =>
      rw [List.append_nil]
      exact congrArg (fun all => Except.ok (filed (groupsOf key items all))) (List.append_nil labels).symm
  | cons item rest ih =>
      rw [List.foldlM_cons, List.mapM_cons]
      cases called : labelOf key item with
      | error fault => rfl
      | ok label =>
          have longer : (items ++ [item]).mapM (labelOf key) = .ok (labels ++ [label]) := by
            refine Checked.mapM_append_eq_ok.mpr ⟨labels, [label], named, ?_, rfl⟩
            rw [List.mapM_cons, called]
            rfl
          have step := ih longer
          rw [← addToGroup_groupsOf named called, List.append_assoc, List.singleton_append] at step
          refine step.trans ?_
          cases rest.mapM (labelOf key) with
          | error fault => rfl
          | ok more =>
              rw [Except.map, List.append_assoc]
              rfl

/-- Items are put into the groups of their labels if all have one; else the first one without fails. -/
theorem groupBy_list (items : List Value) (key : Value) : groupBy (list items) key =
    (items.mapM (labelOf key)).map fun labels => dict (filed (groupsOf key items labels)) := by
  have folded := @foldlM_groupsOf key [] [] items rfl
  simp only [List.nil_append, labelOf, bind_assoc] at folded
  rw [groupBy, itemsOrNone_list]
  refine (congrArg (· >>= fun groups => pure (dict groups)) folded).trans ?_
  cases items.mapM (labelOf key) <;> rfl

/-- Grouping fails just as the labels of the items do. If all items have a label, the groups bear the
labels, each once and in the order in which they first come up; the group of a label holds the items that
have it, in their order, and at least one of them; together the groups hold every item once. -/
theorem groups_of_groupBy (items : List Value) (key : Value) :
    (∀ fault, groupBy (list items) key = .error fault ↔ items.mapM (labelOf key) = .error fault) ∧
    ∀ labels, items.mapM (labelOf key) = .ok labels → ∃ groups : List (String × List Value),
      groupBy (list items) key = .ok (dict (filed groups)) ∧
      groups.map (·.1) = labels.eraseDups ∧ (groups.map (·.1)).Nodup ∧
      (∀ g ∈ groups, g.2 = (items.filter fun item => labelOf key item = .ok g.1) ∧ g.2 ≠ []) ∧
      (groups.flatMap (·.2)).Perm items := by
  rw [groupBy_list]
  constructor
  · intro fault
    cases items.mapM (labelOf key) with
    | error cause =>
        constructor
        · rintro ⟨⟩
          rfl
        · rintro ⟨⟩
          rfl
    | ok labels => exact iff_of_false (by rintro ⟨⟩) (by rintro ⟨⟩)
  · intro labels named
    have distinct := Lookup.nodup_eraseDups labels
    refine ⟨groupsOf key items labels, by rw [named]; rfl, names_groupsOf, by rwa [names_groupsOf], ?_, ?_⟩
    · intro g member
      obtain ⟨label, known, rfl⟩ := List.mem_map.mp member
      obtain ⟨item, inside, called⟩ := Checked.exists_of_mapM named label (List.mem_eraseDups.mp known)
      refine ⟨rfl, List.ne_nil_of_mem (a := item) ?_⟩
      exact List.mem_filter.mpr ⟨inside, decide_eq_true called⟩
    · have known : ∀ item ∈ items, labelOf key item ∈ labels.eraseDups.map Except.ok := by
        intro item member
        obtain ⟨label, inside, called⟩ := Checked.exists_of_mem named item member
        rw [called]
        exact List.mem_map.mpr ⟨label, List.mem_eraseDups.mpr inside, rfl⟩
      have apart : (labels.eraseDups.map (Except.ok (ε := Fault))).Nodup :=
        distinct.map fun _ _ => Except.ok.inj
      have shared := Lookup.flatMap_filter_perm apart known
      rw [List.flatMap_map] at shared
      rwa [groupsOf, List.flatMap_map]

theorem labelOf_of_unwritable {n : Int} (large : ¬Value.Writable n) (name : String) :
    labelOf (text name) (dict [(text name, int n)]) = .error .digitLimit := by
  have found : Value.lookupText? [(text name, int n)] name = some (int n) := by
    simp [Value.lookupText?, Value.lookup?, Value.sameKey_text]
  have shown : (int n).shown = Value.writtenInt n := rfl
  rw [Value.Writable] at large
  rw [labelOf_dict, found, Option.getD_some, shown, Value.writtenInt, if_neg large]

/-- A mapping whose field is a number of more digits than are written belongs to no group. -/
theorem unwritable_not_grouped :
    groupBy (list [dict [(text "a", int (Nat.pow 10 Value.maxIntDigits))]]) (text "a") =
      .error .digitLimit := by
  have large : ¬Value.Writable (Nat.pow 10 Value.maxIntDigits) := by
    rw [Value.Writable, Int.natAbs_natCast]
    exact Nat.lt_irrefl _
  rw [groupBy_list, List.mapM_cons, labelOf_of_unwritable large]
  rfl

/-- Mappings whose labels are equal although their fields are not. -/
def alike : List Value :=
  [dict [(text "a", int 1)], dict [], dict [(text "a", text "1")], dict [(text "a", .null)]]

theorem groups_of_groupBy_alike : alike.mapM (labelOf (text "a")) = .ok ["1", "None", "1", "None"] ∧
    ∃ groups : List (String × List Value),
      groupBy (list alike) (text "a") = .ok (dict (filed groups)) ∧ groups.map (·.1) = ["1", "None"] ∧
      ∀ g ∈ groups, g.2 = alike.filter fun item => labelOf (text "a") item = .ok g.1 := by
  have named : alike.mapM (labelOf (text "a")) = .ok ["1", "None", "1", "None"] := by
    decide +kernel
  obtain ⟨groups, done, names, -, held, -⟩ := (groups_of_groupBy alike (text "a")).2 _ named
  exact ⟨named, groups, done, names, fun g member => (held g member).1⟩

end Stepwise.Script.Library
