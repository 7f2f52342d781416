import Stepwise.Proofs.Value.Data
import Stepwise.Proofs.Value.Sorting
import Stepwise.Script.Call

/-!
The functions of scripts give plain data for plain data: items are sorted and grouped, and what is
counted, averaged or written in short is a number or a text.
-/

namespace Stepwise.Script

open Value (Data)

/-- Arguments that are plain data, by position and by name. -/
structure Arguments.Data (args : Arguments) : Prop where
  positional : ∀ v ∈ args.positional, v.Data
  named : ∀ f ∈ args.named, f.2.Data

/-- The parameters of a call with plain data are plain data wherever the defaults are. -/
theorem Signature.data_of_bind {s : Signature} {args : Arguments} {values : List Value}
    (given : args.Data) (defaults : ∀ f ∈ s.optional, f.2.Data) (done : s.bind args = .ok values) :
    ∀ v ∈ values, v.Data := by
  unfold Signature.bind at done
  dsimp only at done
  split at done
  · cases done
  · split at done
    · cases done
    · split at done
      · cases done
      · cases done
        refine List.forall_mem_append.mpr ⟨given.positional, List.forall_mem_map.mpr ?_⟩
        intro name _
        split
        · rename_i found
          exact given.named _ (List.mem_of_find?_eq_some found)
        · cases found : s.optional.find? (·.1 == name) with
          | none => exact .null
          | some f => exact defaults f (List.mem_of_find?_eq_some found)

namespace Library

variable {v w items key reverse : Value} {xs : List Value}

theorem data_of_itemsOrNone (data : v.Data) (done : itemsOrNone v = .ok xs) : ∀ x ∈ xs, x.Data := by
  obtain ⟨full, -, done⟩ := bind_eq_ok.mp done
  split at done
  · exact data.allItems done
  · cases done
    exact List.forall_mem_nil _

theorem data_of_sortBy (data : items.Data) (done : sortBy items key reverse = .ok w) : w.Data := by
  obtain ⟨xs, read, done⟩ := bind_eq_ok.mp done
  obtain ⟨descending, -, done⟩ := bind_eq_ok.mp done
  obtain ⟨keyed, paired, done⟩ := bind_eq_ok.mp done
  obtain ⟨sorted, sorts, done⟩ := bind_eq_ok.mp done
  obtain ⟨order, arranged, sorts⟩ := bind_eq_ok.mp sorts
  cases sorts
  cases done
  refine .list (List.forall_mem_map.mpr fun pair member => ?_)
  have before := (Sorting.perm_of_sortDirected arranged).mem_iff.mp member
  obtain ⟨item, inside, made⟩ := Checked.exists_of_mapM paired pair before
  obtain ⟨k, -, made⟩ := bind_eq_ok.mp made
  cases made
  exact data_of_itemsOrNone data read item inside

theorem data_of_addToGroup {groups : Entries} {name : String} (filed : (Value.dict groups).Data)
    (data : v.Data) : (Value.dict (addToGroup groups name v)).Data := by
  unfold addToGroup
  split
  · rename_i members found
    have held : (Value.list members).Data := by
      unfold Value.lookupText? Value.lookup? at found
      obtain ⟨e, here, same⟩ := Option.map_eq_some_iff.mp found
      cases filed with
      | dict keys all => exact same ▸ all e (List.mem_of_find?_eq_some here)
    cases held with
    | list all =>
        exact filed.put (.text name)
          (.list (List.forall_mem_append.mpr ⟨all, List.forall_mem_singleton.mpr data⟩))
  · exact filed.put (.text name) (.list (List.forall_mem_singleton.mpr data))

theorem data_of_groupBy (data : items.Data) (done : groupBy items key = .ok w) : w.Data := by
  obtain ⟨xs, read, done⟩ := bind_eq_ok.mp done
  obtain ⟨groups, filed, done⟩ := bind_eq_ok.mp done
  cases done
  refine Checked.foldlM_induction (P := fun groups => (Value.dict groups).Data) filed
    (.dict (List.forall_mem_nil _) (List.forall_mem_nil _)) ?_
  intro item inside before after held step
  obtain ⟨part, -, step⟩ := bind_eq_ok.mp step
  obtain ⟨name, -, step⟩ := bind_eq_ok.mp step
  cases step
  exact data_of_addToGroup held (data_of_itemsOrNone data read item inside)

theorem data_of_total (done : total v = .ok w) : w.Data := by
  obtain ⟨xs, -, done⟩ := bind_eq_ok.mp done
  split at done
  · cases done
    exact .int 0
  · cases done
    exact .float _

theorem data_of_average (done : average v = .ok w) : w.Data := by
  obtain ⟨xs, -, done⟩ := bind_eq_ok.mp done
  split at done
  · cases done
    exact .int 0
  · cases done
    exact .float _

theorem data_of_median (done : median v = .ok w) : w.Data := by
  obtain ⟨xs, -, done⟩ := bind_eq_ok.mp done
  split at done
  · cases done
    exact .int 0
  · obtain ⟨sorted, -, done⟩ := bind_eq_ok.mp done
    cases done
    exact .float _

theorem data_of_single {function : String} {f : Value → Checked Value} {args : Arguments}
    (gives : ∀ v w, f v = .ok w → w.Data) {result : Checked Value}
    (known : call?.single args function f = some result) (done : result = .ok v) : v.Data := by
  cases known
  obtain ⟨values, -, done⟩ := bind_eq_ok.mp done
  split at done
  · exact gives _ _ done
  · cases done
    exact .null

theorem data_of_call {name : String} {args : Arguments} {result : Checked Value} (given : args.Data)
    (known : call? name args = some result) (done : result = .ok v) : v.Data := by
  unfold call? at known
  split at known
  · cases known
    obtain ⟨values, -, done⟩ := bind_eq_ok.mp done
    split at done
    · obtain ⟨s, -, done⟩ := bind_eq_ok.mp done
      cases done
      exact .text s
    · cases done
      exact .null
  · cases known
    obtain ⟨values, bound, done⟩ := bind_eq_ok.mp done
    have all := Signature.data_of_bind given (List.forall_mem_singleton.mpr (.bool false)) bound
    split at done
    · exact data_of_sortBy (all _ List.mem_cons_self) done
    · cases done
      exact .null
  · cases known
    obtain ⟨values, bound, done⟩ := bind_eq_ok.mp done
    have all := Signature.data_of_bind given (List.forall_mem_nil _) bound
    split at done
    · exact data_of_groupBy (all _ List.mem_cons_self) done
    · cases done
      exact .null
  · exact data_of_single (fun _ _ => data_of_total) known done
  · exact data_of_single (fun _ _ => data_of_average) known done
  · exact data_of_single (fun _ _ => data_of_median) known done
  · cases known

end Library

end Stepwise.Script
