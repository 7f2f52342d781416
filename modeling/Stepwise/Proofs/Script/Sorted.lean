import Mathlib.Order.WithBot
import Stepwise.Proofs.Checked
import Stepwise.Proofs.Value.Fields
import Stepwise.Proofs.Value.Order
import Stepwise.Proofs.Value.Stability
import Stepwise.Script.Library

/-!
Sorting mappings by a field whose values can be compared with each other, or are missing: the sort does not
fail, and puts the mappings without a value at the end at which the least ones stand.
-/

namespace Stepwise.Script.Library

open Value (Scale dict list tuple bool int text equalInside)

section Keys

variable {β : Type} [LinearOrder β] {read : Value → Option β} {v w : Value}

/-- What a mapping holds under a key; nothing, if it lacks the key. -/
def under (key item : Value) : Value :=
  match item with
  | dict entries => (Value.lookup? entries key).getD .null
  | _ => .null

/-- The item is a mapping that can be asked for the key, and lacks it or holds nothing or a value of the kind
under it. -/
structure Holds (read : Value → Option β) (key item : Value) : Prop where
  hashable : Value.checkKey key = .ok ()
  mapping : ∃ entries, item = dict entries
  kind : under key item = .null ∨ ∃ x, read (under key item) = some x

/-- What stands for a value in comparisons. -/
def keyOf (v : Value) : Value :=
  tuple [bool (match v with
    | .null => false
    | _ => true), v]

/-- The level of a value, if there is one, above that of nothing. -/
def level (r : Option β) : WithBot β := r.elim ⊥ (↑)

omit [LinearOrder β] in
@[simp] theorem level_none : level (none : Option β) = ⊥ := rfl

omit [LinearOrder β] in
@[simp] theorem level_some (x : β) : level (some x) = x := rfl

omit [LinearOrder β] in
theorem level_inj {r s : Option β} : level r = level s ↔ r = s := by
  cases r <;> cases s <;> simp

theorem keyOf_of_read (scale : Scale read) {x : β} (held : read v = some x) :
    keyOf v = tuple [bool true, v] := by
  cases v with
  | null =>
      rw [scale.null] at held
      cases held
  | _ => rfl

theorem keyOf_null : keyOf .null = tuple [bool false, .null] := rfl

/-- Nothing and a value are never compared: whether there is a value at all is compared before. -/
theorem ordered_keyOf (scale : Scale read) (left : v = .null ∨ ∃ x, read v = some x)
    (right : w = .null ∨ ∃ y, read w = some y) :
    Value.ordered .lt (keyOf v) (keyOf w) = .ok (decide (level (read v) < level (read w))) := by
  have nothing : equalInside .null .null = .ok true := by
    simp [equalInside, Value.equal.equalItem, Value.equal.isNanPair, Value.equal, Value.absentFault?,
      Value.sameKey]
  have equals (a b : Bool) : equalInside (bool a) (bool b) = .ok (a == b) := by
    rw [Value.scale_intOf?.equal rfl rfl]
    cases a <;> cases b <;> rfl
  have below (a b : Bool) : Value.ordered .lt (bool a) (bool b) = .ok (!a && b) := by
    rw [Value.scale_intOf?.less rfl rfl]
    cases a <;> cases b <;> rfl
  rcases left with rfl | ⟨x, heldV⟩
  · rcases right with rfl | ⟨y, heldW⟩
    · rw [keyOf_null, Value.ordered_pair, equals, nothing, decide_eq_false (lt_irrefl _)]
      rfl
    · rw [keyOf_null, keyOf_of_read scale heldW, Value.ordered_pair, equals, below,
        scale.null, heldW, level_none, level_some, decide_eq_true (WithBot.bot_lt_coe y)]
      rfl
  · rcases right with rfl | ⟨y, heldW⟩
    · rw [keyOf_null, keyOf_of_read scale heldV, Value.ordered_pair, equals, below,
        scale.null, level_none, decide_eq_false not_lt_bot]
      rfl
    · rw [keyOf_of_read scale heldV, keyOf_of_read scale heldW, Value.ordered_pair, equals,
        scale.equal heldV heldW, scale.less heldV heldW, heldV, heldW, level_some, level_some]
      by_cases same : x = y
      · subst same
        simp [bind, Except.bind]
      · simp [bind, Except.bind, same]

end Keys

/-! ### Items without a value -/

section Items

variable {α β : Type} [LinearOrder β] {rank : α → Option β} {descending : Bool} {items sorted : List α}

/-- A list in the order of the values of its items, which rise or fall; items without a value come first or
last. Items of equal value, and those without one, stand as in another list, which has the same items. -/
structure SortedBy (rank : α → Option β) (descending : Bool) (items sorted : List α) : Prop where
  perm : sorted.Perm items
  placed : sorted =
    if descending then sorted.filter (rank · |>.isSome) ++ items.filter (rank · |>.isNone)
    else items.filter (rank · |>.isNone) ++ sorted.filter (rank · |>.isSome)
  ordered : (sorted.filterMap rank).Pairwise fun x y => if descending then y ≤ x else x ≤ y
  steady : ∀ r, sorted.filter (rank · = r) = items.filter (rank · = r)

omit [LinearOrder β] in
/-- Where no item of a class follows one of none, those of the class stand in front. -/
theorem eq_filter_append {p : α → Bool} (first : items.Pairwise fun a b => p b = true → p a = true) :
    items = items.filter p ++ items.filter (! p ·) := by
  induction items with
  | nil => rfl
  | cons a rest ih =>
      obtain ⟨here, later⟩ := List.pairwise_cons.mp first
      by_cases inside : p a = true
      · have split := ih later
        rw [List.filter_cons, if_pos inside, List.filter_cons, if_neg (by simp [inside]), List.cons_append,
          ← split]
      · have none : rest.filter p = [] := by
          rw [List.filter_eq_nil_iff]
          intro b member same
          exact inside (here b member same)
        have all : rest.filter (! p ·) = rest := by
          rw [List.filter_eq_self]
          intro b member
          simpa using fun same => inside (here b member same)
        rw [List.filter_cons, if_neg inside, List.filter_cons, if_pos (by simp [inside]), none, all,
          List.nil_append]

/-- In the order of levels, with those of each level in their old order, items are sorted. -/
theorem sortedBy_of_levels (perm : sorted.Perm items)
    (ordered : sorted.Pairwise fun a b =>
      if descending then level (rank b) ≤ level (rank a) else level (rank a) ≤ level (rank b))
    (steady : ∀ r, sorted.filter (rank · = r) = items.filter (rank · = r)) :
    SortedBy rank descending items sorted := by
  have nothing (r : Option β) : decide (r = none) = r.isNone := by cases r <;> rfl
  have absent := steady none
  simp only [nothing] at absent
  refine ⟨perm, ?_, ?_, steady⟩
  · cases descending with
    | true =>
        have first : sorted.Pairwise fun a b => (rank b).isSome = true → (rank a).isSome = true := by
          refine ordered.imp fun {a b} below => ?_
          cases held : rank a <;> cases heldToo : rank b <;> simp [held, heldToo] at below ⊢
        have parts := eq_filter_append first
        simpa [← absent] using parts
    | false =>
        have first : sorted.Pairwise fun a b => (rank b).isNone = true → (rank a).isNone = true := by
          refine ordered.imp fun {a b} below => ?_
          cases held : rank a <;> cases heldToo : rank b <;> simp [held, heldToo] at below ⊢
        have parts := eq_filter_append first
        simpa [← absent] using parts
  · rw [List.pairwise_filterMap]
    refine ordered.imp fun {a b} below x heldX y heldY => ?_
    simpa [heldX, heldY] using below

end Items

/-! ### The sort -/

section Mappings

variable {β : Type} [LinearOrder β] {read : Value → Option β} {key item reverse : Value}
  {descending : Bool} {items : List Value}

omit [LinearOrder β] in
theorem fieldKey_of_holds (held : Holds read key item) :
    fieldKey item key = .ok (keyOf (under key item)) := by
  obtain ⟨entries, rfl⟩ := held.mapping
  rw [fieldKey, field, held.hashable]
  rfl

/-- The pairs that are compared are those of the levels, and what the sort tells of these holds of the items. -/
theorem exists_sortBy (scale : Scale read) (turned : direction reverse = .ok descending)
    (held : ∀ item ∈ items, Holds read key item) :
    ∃ sorted, sortBy (list items) key reverse = .ok (list sorted) ∧
      SortedBy (fun item => read (under key item)) descending items sorted := by
  let keyed : List (Value × Value) := items.map fun item => (keyOf (under key item), item)
  have taken : (items.mapM fun item => do return (← fieldKey item key, item)) = .ok keyed := by
    have each : ∀ item ∈ items, (do return (← fieldKey item key, item) : Checked (Value × Value)) =
        pure (keyOf (under key item), item) := by
      intro item member
      rw [fieldKey_of_holds (held item member)]
      rfl
    rw [Checked.mapM_congr each]
    exact List.mapM_pure ..
  have tells : ∀ p q, p ∈ keyed → q ∈ keyed → Value.ordered .lt p.1 q.1 =
      .ok (decide (level (read (under key p.2)) < level (read (under key q.2)))) := by
    intro p q one two
    obtain ⟨item, member, rfl⟩ := List.mem_map.mp one
    obtain ⟨other, present, rfl⟩ := List.mem_map.mp two
    exact ordered_keyOf scale (held item member).kind (held other present).kind
  have all : ∀ p ∈ keyed, p ∈ keyed := fun _ => id
  obtain ⟨pairs, done, ordered, steady⟩ := Sorting.exists_sortDirected tells descending all
  have whole : keyed.map (·.2) = items := by
    rw [List.map_map]
    exact List.map_id _
  refine ⟨pairs.map (·.2), ?_, sortedBy_of_levels ?_ (List.pairwise_map.mpr ordered) fun r => ?_⟩
  · refine bind_eq_ok.mpr ⟨items, itemsOrNone_list items, bind_eq_ok.mpr ⟨descending, turned, ?_⟩⟩
    refine bind_eq_ok.mpr ⟨keyed, taken, ?_⟩
    rw [sortByKeys, done]
    rfl
  · have perm := (Sorting.perm_of_sortDirected done).map (·.2)
    rwa [whole] at perm
  · have same := congrArg (List.map (·.2)) (steady (level r))
    simp only [level_inj] at same
    conv_rhs => rw [← whole]
    rw [List.filter_map, List.filter_map]
    exact same

/-- Mappings whose field is of one kind, or nothing, or missing, are sorted by it: by integers, and by texts. -/
theorem sortedBy_of_sortBy (items : List Value) (turned : direction reverse = .ok descending) :
    ((∀ item ∈ items, Holds Value.intOf? key item) →
      ∃ sorted, sortBy (list items) key reverse = .ok (list sorted) ∧
        SortedBy (fun item => Value.intOf? (under key item)) descending items sorted) ∧
    ((∀ item ∈ items, Holds Value.textOf? key item) →
      ∃ sorted, sortBy (list items) key reverse = .ok (list sorted) ∧
        SortedBy (fun item => Value.textOf? (under key item)) descending items sorted) :=
  ⟨exists_sortBy Value.scale_intOf? turned, exists_sortBy Value.scale_textOf? turned⟩

/-- Mappings by numbers, one of them a truth value, with nothing and a missing field among them. -/
def byNumber : List Value :=
  [dict [(text "n", int 2)], dict [(text "n", .null)], dict [(text "n", int 1), (text "m", int 0)], dict [],
    dict [(text "n", bool true)]]

/-- Mappings by names, two of them alike. -/
def byName : List Value :=
  [dict [(text "n", text "b"), (text "m", int 0)], dict [], dict [(text "n", text "B")],
    dict [(text "n", text "b")]]

theorem sortedBy_of_sortBy_mixed :
    ((∀ item ∈ byNumber, Holds Value.intOf? (text "n") item) ∧
      ∀ item ∈ byName, Holds Value.textOf? (text "n") item) ∧
    (∃ sorted, sortBy (list byNumber) (text "n") (bool true) = .ok (list sorted) ∧
      SortedBy (fun item => Value.intOf? (under (text "n") item)) true byNumber sorted) ∧
    ∃ sorted, sortBy (list byName) (text "n") (bool false) = .ok (list sorted) ∧
      SortedBy (fun item => Value.textOf? (under (text "n") item)) false byName sorted := by
  have present {γ : Type} {read : Value → Option γ} {v : Value} {more : Entries}
      (kind : v = .null ∨ ∃ x, read v = some x) : Holds read (text "n") (dict ((text "n", v) :: more)) := by
    have found : under (text "n") (dict ((text "n", v) :: more)) = v := by
      simp [under, Value.lookup?, Value.sameKey_text]
    exact ⟨rfl, ⟨_, rfl⟩, by rwa [found]⟩
  have missing {γ : Type} {read : Value → Option γ} : Holds read (text "n") (dict []) :=
    ⟨rfl, ⟨_, rfl⟩, Or.inl rfl⟩
  have numbers : ∀ item ∈ byNumber, Holds Value.intOf? (text "n") item := by
    simp only [byNumber, List.forall_mem_cons]
    exact ⟨present (Or.inr ⟨2, rfl⟩), present (Or.inl rfl), present (Or.inr ⟨1, rfl⟩), missing,
      present (Or.inr ⟨1, rfl⟩), List.forall_mem_nil _⟩
  have names : ∀ item ∈ byName, Holds Value.textOf? (text "n") item := by
    simp only [byName, List.forall_mem_cons]
    exact ⟨present (Or.inr ⟨"b", rfl⟩), missing, present (Or.inr ⟨"B", rfl⟩),
      present (Or.inr ⟨"b", rfl⟩), List.forall_mem_nil _⟩
  exact ⟨⟨numbers, names⟩, (sortedBy_of_sortBy byNumber rfl).1 numbers,
    (sortedBy_of_sortBy byName rfl).2 names⟩

end Mappings

end Stepwise.Script.Library
