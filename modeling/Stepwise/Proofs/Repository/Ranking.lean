import Mathlib.Data.List.Sort
import Stepwise.Proofs.Number.Rounding
import Stepwise.Proofs.Repository.Mirror

/-!
The order of the ids on a server. Where the scores rise from one storing to the next, the ids go from the
workflow that was stored last back to the one that has not been stored for longest. The scores are rounded,
and moments that follow one another by a microsecond are sure to have scores that rise until the year 2242.
-/

namespace Stepwise

/-- There is one way to put items in an order in which no two of them tie. -/
theorem mergeSort_eq_of_perm {α : Type} [DecidableEq α] {le : α → α → Bool} {items sorted : List α}
    (perm : items.Perm sorted) (refl : ∀ a ∈ sorted, le a a = true)
    (strict : sorted.Pairwise fun a b => le a b = true ∧ le b a = false) :
    items.mergeSort le = sorted := by
  -- the places in `sorted` are an order of all items, and the sort asks for no more than `sorted` tells
  have places : ∀ a ∈ sorted, ∀ b ∈ sorted, le a b = decide (sorted.idxOf a ≤ sorted.idxOf b) := by
    intro a first b second
    have inside := List.idxOf_lt_length_iff.mpr first
    have inside' := List.idxOf_lt_length_iff.mpr second
    rcases Nat.lt_trichotomy (sorted.idxOf a) (sorted.idxOf b) with before | same | after
    · have told := List.pairwise_iff_getElem.mp strict _ _ inside inside' before
      rw [List.getElem_idxOf, List.getElem_idxOf] at told
      rw [told.1, decide_eq_true before.le]
    · rw [(List.idxOf_inj first).mp same, refl b second, decide_eq_true (Nat.le_refl _)]
    · have told := List.pairwise_iff_getElem.mp strict _ _ inside' inside after
      rw [List.getElem_idxOf, List.getElem_idxOf] at told
      rw [told.2, decide_eq_false (Nat.not_le.mpr after)]
  have placed : items.mergeSort le =
      items.mergeSort fun a b => decide (sorted.idxOf a ≤ sorted.idxOf b) := by
    have mapped : (items.mergeSort le).map id = (items.map id).mergeSort _ :=
      List.map_mergeSort (s := fun a b => decide (sorted.idxOf a ≤ sorted.idxOf b))
        fun a first b second => places a (perm.subset first) b (perm.subset second)
    rwa [List.map_id, List.map_id] at mapped
  rw [placed]
  refine ((List.mergeSort_perm _ _).trans perm).eq_of_pairwise ?_
    (List.pairwise_mergeSort ?_ ?_ items) (strict.imp_of_mem ?_)
  · intro a b _ second first back
    exact ((List.idxOf_inj second).mp
      (Nat.le_antisymm (of_decide_eq_true back) (of_decide_eq_true first))).symm
  · intro a b c first second
    exact decide_eq_true (Nat.le_trans (of_decide_eq_true first) (of_decide_eq_true second))
  · intro a b
    rw [Bool.or_eq_true, decide_eq_true_iff, decide_eq_true_iff]
    exact Nat.le_total _ _
  · intro a b first second told
    rw [← places a first b second]
    exact told.1

namespace Server

theorem outranks_of_lt {a b : String × Binary64} (before : b.2.lt a.2 = true) :
    outranks a b = true ∧ outranks b a = false := by
  rw [outranks, outranks, before, Binary64.lt_asymm before, Binary64.eq_of_lt before]
  exact ⟨rfl, rfl⟩

theorem outranks_self {a : String × Binary64} (number : a.2.isNan = false) :
    outranks a a = true := by
  rw [outranks, Binary64.eq_self number, decide_eq_true (String.le_refl a.1)]
  exact Bool.or_true _

end Server

namespace Documents

variable {server : Server} {m : Memory}

theorem isNan_score (t : Moment) : (score t).isNan = false := Binary64.isNan_ofRatio _ _ _

theorem isNan_scoreOf (w : Stored) : (scoreOf w).isNan = false := by
  rw [scoreOf]
  cases w.updated? with
  | none => rfl
  | some t => exact isNan_score t

/-- Of two moments before the year 2242 the later one has the higher score. -/
theorem score_lt {s t : Moment} (early : s.instant.natAbs < 1000000 * 2 ^ 33)
    (early' : t.instant.natAbs < 1000000 * 2 ^ 33) (before : s.instant < t.instant) :
    (score s).lt (score t) = true :=
  Binary64.ofRatio_lt (by decide) (by decide) (by decide) early early' before

/-- Where the scores rise along the memory the ids on the server go back along it. -/
theorem Mirrors.ranking_eq (mirrors : Mirrors server m)
    (rising : m.entries.Pairwise fun a b => (scoreOf a).lt (scoreOf b) = true) :
    server.ranking indexKey = m.entries.reverse.map Stored.id := by
  have sorted : (Documents.index server).mergeSort Server.outranks =
      m.entries.reverse.map fun w => (w.id, scoreOf w) := by
    apply mergeSort_eq_of_perm
    · exact List.Perm.trans mirrors.index ((List.reverse_perm _).symm.map _)
    · intro a member
      obtain ⟨w, -, rfl⟩ := List.mem_map.mp member
      exact Server.outranks_self (isNan_scoreOf w)
    · rw [List.pairwise_map, List.pairwise_reverse]
      exact rising.imp fun before => Server.outranks_of_lt before
  rw [Server.ranking]
  change ((Documents.index server).mergeSort Server.outranks).map _ = _
  rw [sorted, List.map_map]
  rfl

end Documents

end Stepwise
