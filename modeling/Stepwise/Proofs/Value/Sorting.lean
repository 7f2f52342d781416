import Stepwise.Proofs.Checked
import Stepwise.Value.Sorting

/-!
A sort neither loses items nor makes any up.
-/

namespace Stepwise.Sorting

variable {α : Type} {less : α → α → Checked Bool} {items result run others taken : List α}

theorem perm_of_insert {pivot : α} (done : insert less pivot items = .ok result) :
    result.Perm (pivot :: items) := by
  fun_induction insert less pivot items generalizing result with
  | case1 items half =>
      rename_i shape
      have empty : items = [] := by
        rw [List.drop_eq_nil_iff] at shape
        exact List.length_eq_zero_iff.mp (by omega)
      cases done
      rw [empty]
  | case2 items half middle after shape lower =>
      rename_i upper
      have whole : items.take half ++ middle :: after = items := by
        rw [← shape, List.take_append_drop]
      obtain ⟨below, -, done⟩ := bind_eq_ok.mp done
      split at done
      · obtain ⟨front, inserted, done⟩ := bind_eq_ok.mp done
        cases done
        have kept := (lower inserted).append_right (middle :: after)
        rwa [List.cons_append, whole] at kept
      · obtain ⟨back, inserted, done⟩ := bind_eq_ok.mp done
        cases done
        have kept := ((upper inserted).cons middle).append_left (items.take half)
        have moved : (items.take half ++ middle :: pivot :: after).Perm
            (pivot :: (items.take half ++ middle :: after)) :=
          ((List.Perm.swap pivot middle after).append_left _).trans List.perm_middle
        rw [whole] at moved
        exact kept.trans moved

theorem perm_of_insertAll (done : insertAll less run others = .ok result) :
    result.Perm (run ++ others) := by
  induction others generalizing run with
  | nil =>
      cases done
      rw [List.append_nil]
  | cons pivot rest ih =>
      obtain ⟨longer, inserted, done⟩ := bind_eq_ok.mp done
      have kept := (perm_of_insert inserted).append_right rest
      exact ((ih done).trans kept).trans List.perm_middle.symm

theorem perm_of_risingRun {last : α} (done : risingRun less last taken items = .ok (run, others)) :
    (run ++ others).Perm (taken ++ items) := by
  induction items generalizing last taken with
  | nil =>
      cases done
      exact List.Perm.refl _
  | cons next rest ih =>
      obtain ⟨below, -, done⟩ := bind_eq_ok.mp done
      split at done
      · cases done
        exact List.Perm.refl _
      · exact (ih done).trans List.perm_middle.symm

theorem perm_of_fallingRun {last : α} (done : fallingRun less last taken items = .ok (run, others)) :
    (run ++ others).Perm (taken ++ items) := by
  induction items generalizing last taken with
  | nil =>
      cases done
      exact List.Perm.refl _
  | cons next rest ih =>
      obtain ⟨below, -, done⟩ := bind_eq_ok.mp done
      split at done
      · exact (ih done).trans List.perm_middle.symm
      · cases done
        exact List.Perm.refl _

theorem perm_of_sort (done : sort less items = .ok result) : result.Perm items := by
  unfold sort at done
  split at done
  · cases done
    exact List.Perm.refl _
  · cases done
    exact List.Perm.refl _
  · rename_i first second rest
    have swapped : ([second, first] ++ rest).Perm (first :: second :: rest) :=
      List.Perm.swap first second rest
    obtain ⟨below, -, done⟩ := bind_eq_ok.mp done
    split at done
    · obtain ⟨⟨run, others⟩, taken, done⟩ := bind_eq_ok.mp done
      exact ((perm_of_insertAll done).trans (perm_of_fallingRun taken)).trans swapped
    · obtain ⟨⟨run, others⟩, taken, done⟩ := bind_eq_ok.mp done
      have turned := (List.reverse_perm run).append_right others
      exact (((perm_of_insertAll done).trans turned).trans (perm_of_risingRun taken)).trans swapped

theorem perm_of_sortDirected {descending : Bool}
    (done : sortDirected less descending items = .ok result) : result.Perm items := by
  unfold sortDirected at done
  split at done
  · obtain ⟨sorted, sorts, done⟩ := bind_eq_ok.mp done
    cases done
    exact ((List.reverse_perm sorted).trans (perm_of_sort sorts)).trans (List.reverse_perm items)
  · exact perm_of_sort done

end Stepwise.Sorting
