import Mathlib.Order.Lattice
import Stepwise.Proofs.Value.Sorting

/-!
Where comparisons tell the order of ranks, a sort does not fail, puts the items in that order, and keeps
the order of items of equal rank; so it does in the other direction.
-/

namespace Stepwise.Sorting

variable {α β : Type} [LinearOrder β] {rank : α → β} {less : α → α → Checked Bool}
  {items sorted taken rest run others result more : List α} {pivot last : α}

/-- A list in rising order of ranks, in which items of equal rank stand as in another one. -/
structure Stable (rank : α → β) (items sorted : List α) : Prop where
  rising : sorted.Pairwise fun a b => rank a ≤ rank b
  steady : ∀ r, sorted.filter (rank · = r) = items.filter (rank · = r)

theorem Stable.mem_iff (stable : Stable rank items sorted) {a : α} : a ∈ sorted ↔ a ∈ items := by
  have same := congrArg (a ∈ ·) (stable.steady (rank a))
  simpa [List.mem_filter] using same

theorem Stable.refl (rising : items.Pairwise fun a b => rank a ≤ rank b) : Stable rank items items :=
  ⟨rising, fun _ => rfl⟩

/-- What is sorted already can stand for what it comes from. -/
theorem Stable.trans (stable : Stable rank items sorted) (further : Stable rank (sorted ++ more) result) :
    Stable rank (items ++ more) result where
  rising := further.rising
  steady r := by rw [further.steady, List.filter_append, List.filter_append, stable.steady]

/-! ### One more item -/

/-- An item is put behind those that it is not less than. -/
theorem exists_insert (rising : sorted.Pairwise fun a b => rank a ≤ rank b)
    (tells : ∀ a ∈ sorted, less pivot a = .ok (decide (rank pivot < rank a))) :
    ∃ result, insert less pivot sorted = .ok result ∧ Stable rank (sorted ++ [pivot]) result := by
  fun_induction insert less pivot sorted with
  | case1 sorted half shape =>
      have empty : sorted = [] := by
        rw [List.drop_eq_nil_iff] at shape
        exact List.length_eq_zero_iff.mp (by omega)
      subst empty
      exact ⟨[pivot], rfl, .refl (List.pairwise_singleton _ _)⟩
  | case2 sorted half middle after shape lower upper =>
      have whole : sorted.take half ++ middle :: after = sorted := by
        rw [← shape, List.take_append_drop]
      generalize sorted.take half = before at whole lower ⊢
      subst whole
      obtain ⟨risingBefore, risingAfter, across⟩ := List.pairwise_append.mp rising
      rw [List.forall_mem_append, List.forall_mem_cons] at tells
      rw [tells.2.1]
      by_cases below : rank pivot < rank middle
      · obtain ⟨front, done, stable⟩ := lower risingBefore tells.1
        have above : ∀ b ∈ middle :: after, rank pivot < rank b := by
          rw [List.forall_mem_cons]
          exact ⟨below, fun b member => below.trans_le (List.rel_of_pairwise_cons risingAfter member)⟩
        refine ⟨front ++ middle :: after, by simp [below, done, bind, Except.bind], ?_, ?_⟩
        · rw [List.pairwise_append]
          refine ⟨stable.rising, risingAfter, fun a member b later => ?_⟩
          rcases List.mem_append.mp (stable.mem_iff.mp member) with earlier | new
          · exact across a earlier b later
          · rw [List.mem_singleton.mp new]
            exact (above b later).le
        · -- What follows the item has a greater rank, so the item may be taken past it.
          intro r
          have passed : (middle :: after).filter (rank · = r) ++ [pivot].filter (rank · = r) =
              [pivot].filter (rank · = r) ++ (middle :: after).filter (rank · = r) := by
            by_cases here : rank pivot = r
            · have none : (middle :: after).filter (rank · = r) = [] := by
                rw [List.filter_eq_nil_iff]
                intro b member same
                rw [decide_eq_true_eq, ← here] at same
                exact (above b member).ne' same
              rw [none, List.nil_append, List.append_nil]
            · have none : [pivot].filter (rank · = r) = [] := by simp [here]
              rw [none, List.nil_append, List.append_nil]
          simp only [List.filter_append, stable.steady, List.append_assoc]
          rw [passed]
      · obtain ⟨back, done, stable⟩ := upper risingAfter.of_cons tells.2.2
        have least : ∀ b ∈ back, rank middle ≤ rank b := by
          intro b member
          rcases List.mem_append.mp (stable.mem_iff.mp member) with later | new
          · exact List.rel_of_pairwise_cons risingAfter later
          · rw [List.mem_singleton.mp new]
            exact le_of_not_gt below
        refine ⟨before ++ middle :: back, by simp [below, done, bind, Except.bind], ?_, ?_⟩
        · rw [List.pairwise_append, List.pairwise_cons]
          have first (a : α) (member : a ∈ before) : rank a ≤ rank middle :=
            across a member middle List.mem_cons_self
          refine ⟨risingBefore, ⟨least, stable.rising⟩, fun a member => ?_⟩
          rw [List.forall_mem_cons]
          exact ⟨first a member, fun b later => (first a member).trans (least b later)⟩
        · intro r
          have same := stable.steady r
          rw [List.filter_append] at same
          simp [List.filter_cons, same]

/-! ### Runs -/

section Runs

variable {P : α → Prop}
  (tells : ∀ a b, P a → P b → less a b = .ok (decide (rank a < rank b)))
include tells

theorem exists_insertAll (sound : ∀ a ∈ items, P a) (new : ∀ a ∈ others, P a)
    (stable : Stable rank items sorted) :
    ∃ result, insertAll less sorted others = .ok result ∧ Stable rank (items ++ others) result := by
  induction others generalizing items sorted with
  | nil =>
      rw [List.append_nil]
      exact ⟨sorted, rfl, stable⟩
  | cons pivot rest ih =>
      obtain ⟨here, later⟩ := List.forall_mem_cons.mp new
      obtain ⟨longer, inserted, further⟩ := exists_insert stable.rising fun a member =>
        tells pivot a here (sound a (stable.mem_iff.mp member))
      have known : ∀ a ∈ items ++ [pivot], P a :=
        List.forall_mem_append.mpr ⟨sound, List.forall_mem_singleton.mpr here⟩
      obtain ⟨result, done, kept⟩ := ih known later (stable.trans further)
      rw [List.append_assoc, List.singleton_append] at kept
      refine ⟨result, ?_, kept⟩
      rw [insertAll, inserted]
      exact done

/-- A rising run is taken in reverse, up to an item below its last one. -/
theorem exists_risingRun (sound : ∀ a ∈ rest, P a) (latest : P last) (top : ∀ a ∈ taken, rank a ≤ rank last)
    (falling : taken.Pairwise fun a b => rank b ≤ rank a) :
    ∃ run others, risingRun less last taken rest = .ok (run, others) ∧
      (run.Pairwise fun a b => rank b ≤ rank a) ∧ run.reverse ++ others = taken.reverse ++ rest := by
  induction rest generalizing last taken with
  | nil => exact ⟨taken, [], rfl, falling, rfl⟩
  | cons next rest ih =>
      obtain ⟨here, later⟩ := List.forall_mem_cons.mp sound
      rw [risingRun, tells next last here latest]
      by_cases below : rank next < rank last
      · exact ⟨taken, next :: rest, by simp [below, bind, Except.bind], falling, rfl⟩
      · have above : ∀ a ∈ taken, rank a ≤ rank next := fun a member =>
          (top a member).trans (le_of_not_gt below)
        obtain ⟨run, others, done, ordered, whole⟩ := ih later here
          (List.forall_mem_cons.mpr ⟨le_rfl, above⟩) (List.pairwise_cons.mpr ⟨above, falling⟩)
        refine ⟨run, others, by simp [below, done, bind, Except.bind], ordered, ?_⟩
        rw [whole, List.reverse_cons, List.append_assoc, List.singleton_append]

/-- A run that falls at every item is taken in reverse as well, and rises then. -/
theorem exists_fallingRun (sound : ∀ a ∈ rest, P a) (latest : P last) (bottom : ∀ a ∈ taken, rank last ≤ rank a)
    (rising : taken.Pairwise fun a b => rank a < rank b) :
    ∃ run others, fallingRun less last taken rest = .ok (run, others) ∧
      (run.Pairwise fun a b => rank a < rank b) ∧ run.reverse ++ others = taken.reverse ++ rest := by
  induction rest generalizing last taken with
  | nil => exact ⟨taken, [], rfl, rising, rfl⟩
  | cons next rest ih =>
      obtain ⟨here, later⟩ := List.forall_mem_cons.mp sound
      rw [fallingRun, tells next last here latest]
      by_cases below : rank next < rank last
      · have above : ∀ a ∈ taken, rank next < rank a := fun a member =>
          below.trans_le (bottom a member)
        obtain ⟨run, others, done, ordered, whole⟩ := ih later here
          (List.forall_mem_cons.mpr ⟨le_rfl, fun a member => (above a member).le⟩)
          (List.pairwise_cons.mpr ⟨above, rising⟩)
        refine ⟨run, others, by simp [below, done, bind, Except.bind], ordered, ?_⟩
        rw [whole, List.reverse_cons, List.append_assoc, List.singleton_append]
      · exact ⟨taken, next :: rest, by simp [below, bind, Except.bind], rising, rfl⟩

omit tells in
/-- No two items of a run that falls have the same rank, so turning it round keeps it stable. -/
theorem stable_reverse (rising : run.Pairwise fun a b => rank a < rank b) :
    Stable rank run.reverse run where
  rising := rising.imp le_of_lt
  steady r := by
    rw [List.filter_reverse]
    have once : (run.filter (rank · = r)).Pairwise fun a b => rank a < rank b := rising.filter _
    match same : run.filter (rank · = r) with
    | [] => rfl
    | [a] => rfl
    | a :: b :: more =>
        rw [same] at once
        have inside {c : α} (member : c ∈ a :: b :: more) : rank c = r := by
          rw [← same] at member
          exact of_decide_eq_true (List.mem_filter.mp member).2
        have before := List.rel_of_pairwise_cons once (List.mem_cons_self (a := b))
        rw [inside List.mem_cons_self, inside (List.mem_cons_of_mem a List.mem_cons_self)] at before
        exact absurd before (lt_irrefl r)

/-- A sort of items that can be compared succeeds and is stable. -/
theorem exists_sort (sound : ∀ a ∈ items, P a) :
    ∃ sorted, sort less items = .ok sorted ∧ Stable rank items sorted := by
  match items with
  | [] => exact ⟨[], rfl, .refl List.Pairwise.nil⟩
  | [only] => exact ⟨[only], rfl, .refl (List.pairwise_singleton _ _)⟩
  | first :: second :: rest =>
      obtain ⟨one, two, later⟩ : P first ∧ P second ∧ ∀ a ∈ rest, P a := by
        simpa only [List.forall_mem_cons] using sound
      rw [sort, tells second first two one]
      by_cases below : rank second < rank first
      · have bottom : ∀ a ∈ [second, first], rank second ≤ rank a := by simp [below.le]
        have begun : [second, first].Pairwise fun a b => rank a < rank b := by simp [below]
        obtain ⟨run, others, taken, rising, whole⟩ := exists_fallingRun tells later two bottom begun
        change run.reverse ++ others = first :: second :: rest at whole
        rw [← whole] at sound ⊢
        obtain ⟨soundRun, soundOthers⟩ := List.forall_mem_append.mp sound
        obtain ⟨sorted, done, stable⟩ :=
          exists_insertAll tells soundRun soundOthers (stable_reverse rising)
        exact ⟨sorted, by simpa [below, taken, bind, Except.bind] using done, stable⟩
      · have ordered := le_of_not_gt below
        have top : ∀ a ∈ [second, first], rank a ≤ rank second := by simp [ordered]
        have begun : [second, first].Pairwise fun a b => rank b ≤ rank a := by simp [ordered]
        obtain ⟨run, others, taken, falling, whole⟩ := exists_risingRun tells later two top begun
        change run.reverse ++ others = first :: second :: rest at whole
        rw [← whole] at sound ⊢
        obtain ⟨soundRun, soundOthers⟩ := List.forall_mem_append.mp sound
        obtain ⟨sorted, done, stable⟩ := exists_insertAll tells soundRun soundOthers
          (.refl (List.pairwise_reverse.mpr falling))
        exact ⟨sorted, by simpa [below, taken, bind, Except.bind] using done, stable⟩

/-- In either direction the order of items of equal rank is kept. -/
theorem exists_sortDirected (descending : Bool) (sound : ∀ a ∈ items, P a) :
    ∃ sorted, sortDirected less descending items = .ok sorted ∧
      (sorted.Pairwise fun a b => if descending then rank b ≤ rank a else rank a ≤ rank b) ∧
      ∀ r, sorted.filter (rank · = r) = items.filter (rank · = r) := by
  cases descending with
  | false =>
      obtain ⟨sorted, done, stable⟩ := exists_sort tells sound
      exact ⟨sorted, done, by simpa using stable.rising, stable.steady⟩
  | true =>
      have turned : ∀ a ∈ items.reverse, P a := fun a member => sound a (List.mem_reverse.mp member)
      obtain ⟨sorted, done, stable⟩ := exists_sort tells turned
      refine ⟨sorted.reverse, by rw [sortDirected, done]; rfl, ?_, fun r => ?_⟩
      · simpa using List.pairwise_reverse.mpr stable.rising
      · rw [List.filter_reverse, stable.steady, List.filter_reverse, List.reverse_reverse]

end Runs

end Stepwise.Sorting
