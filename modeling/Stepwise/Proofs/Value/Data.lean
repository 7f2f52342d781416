import Stepwise.Proofs.Checked
import Stepwise.Value.Directives
import Stepwise.Value.Sorting
import Stepwise.Value.Subscript

/-!
Plain data, to any depth: what numbers, texts, lists, tuples and mappings are made of. The operators of
scripts make plain data from plain data, powers excepted.
-/

namespace Stepwise

namespace Value

/-- Plain data at every depth. Escaped text is text, and a group of a grouping is the tuple that it is. -/
inductive Data : Value → Prop
  | null : Data null
  | bool (flag : Bool) : Data (bool flag)
  | int (n : Int) : Data (int n)
  | float (x : Binary64) : Data (float x)
  | text (s : String) : Data (text s)
  | markup (s : String) : Data (markup s)
  | list {items : List Value} (all : ∀ v ∈ items, Data v) : Data (list items)
  | tuple {items : List Value} (all : ∀ v ∈ items, Data v) : Data (tuple items)
  | dict {entries : Entries} (keys : ∀ e ∈ entries, Data e.1) (all : ∀ e ∈ entries, Data e.2) :
      Data (dict entries)
  | group {key : Value} {members : List Value} (named : Data key) (all : ∀ v ∈ members, Data v) :
      Data (group key members)

variable {u v w : Value} {entries : Entries} {xs : List Value}

/-! ### Parts of data -/

theorem Data.tupleOf (data : v.Data) (held : v.tupleOf? = some xs) : ∀ x ∈ xs, x.Data := by
  cases data with
  | tuple all =>
      cases held
      exact all
  | group named all =>
      cases held
      rw [List.forall_mem_cons, List.forall_mem_singleton]
      exact ⟨named, .list all⟩
  | _ => cases held

theorem Data.of_items {failure : Option Fault} (data : v.Data) (done : v.items = .ok (xs, failure)) :
    ∀ x ∈ xs, x.Data := by
  have spelled (s : String) : ∀ x ∈ s.toList.map fun c => Value.text (String.singleton c), x.Data := by
    intro x member
    obtain ⟨c, -, rfl⟩ := List.mem_map.mp member
    exact .text _
  cases data with
  | text s =>
      cases done
      exact spelled s
  | markup s =>
      cases done
      exact spelled s
  | list all =>
      cases done
      exact all
  | tuple all =>
      cases done
      exact all
  | dict keys all =>
      cases done
      exact List.forall_mem_map.mpr keys
  | group named all =>
      cases done
      rw [List.forall_mem_cons, List.forall_mem_singleton]
      exact ⟨named, .list all⟩
  | _ => cases done

theorem Data.allItems (data : v.Data) (done : v.allItems = .ok xs) : ∀ x ∈ xs, x.Data := by
  obtain ⟨⟨found, failure⟩, read, done⟩ := bind_eq_ok.mp done
  cases failure with
  | some fault => cases done
  | none =>
      cases done
      exact data.of_items read

theorem Data.ofFields {fields : Fields} (all : ∀ f ∈ fields, f.2.Data) : (ofFields fields).Data :=
  .dict (List.forall_mem_map.mpr fun f _ => .text f.1) (List.forall_mem_map.mpr all)

theorem Data.put (filed : (Value.dict entries).Data) (key : u.Data) (data : v.Data) :
    (Value.dict (Value.put entries u v)).Data := by
  cases filed with
  | dict keys all =>
      unfold Value.put
      split
      · refine .dict (List.forall_mem_map.mpr ?_) (List.forall_mem_map.mpr ?_)
        · intro e member
          split
          · exact keys e member
          · exact keys e member
        · intro e member
          split
          · exact data
          · exact all e member
      · refine .dict ?_ ?_
        · exact List.forall_mem_append.mpr ⟨keys, List.forall_mem_singleton.mpr key⟩
        · exact List.forall_mem_append.mpr ⟨all, List.forall_mem_singleton.mpr data⟩

/-! ### Numbers -/

theorem data_of_onNumbers {operator : String} {ints : Int → Int → Checked Value}
    {floats : Binary64 → Binary64 → Checked Value} (whole : ∀ a b u, ints a b = .ok u → u.Data)
    (broken : ∀ x y u, floats x y = .ok u → u.Data) (done : onNumbers operator ints floats v w = .ok u) :
    u.Data := by
  unfold onNumbers at done
  split at done
  · cases done
  · split at done
    · obtain ⟨pair, -, done⟩ := bind_eq_ok.mp done
      cases pair with
      | ints a b => exact whole a b u done
      | floats x y => exact broken x y u done
    · cases done

theorem data_of_signed {sign : String} {ints : Int → Int} {floats : Binary64 → Binary64}
    (done : signed sign ints floats v = .ok u) : u.Data := by
  unfold signed at done
  split at done
  · cases done
  · cases done
    exact .int _
  · cases done
    exact .int _
  · cases done
    exact .float _
  · cases done

theorem data_of_div (done : div v w = .ok u) : u.Data := by
  refine data_of_onNumbers ?_ ?_ done
  · intro a b u made
    unfold divInts at made
    split at made
    · cases made
    · split at made
      · cases made
      · cases made
        exact .float _
  · intro x y u made
    split at made
    · cases made
    · cases made
      exact .float _

theorem data_of_floorDiv (done : floorDiv v w = .ok u) : u.Data := by
  refine data_of_onNumbers ?_ ?_ done
  · intro a b u made
    split at made
    · cases made
    · cases made
      exact .int _
  · intro x y u made
    split at made
    · cases made
    · cases made
      exact .float _

theorem data_of_mod (done : mod v w = .ok u) : u.Data := by
  unfold mod at done
  split at done
  · obtain ⟨t, -, done⟩ := bind_eq_ok.mp done
    cases done
    exact .text _
  · obtain ⟨t, -, done⟩ := bind_eq_ok.mp done
    cases done
    exact .markup _
  · refine data_of_onNumbers ?_ ?_ done
    · intro a b u made
      split at made
      · cases made
      · cases made
        exact .int _
    · intro x y u made
      split at made
      · cases made
      · cases made
        exact .float _

/-! ### Sums, products and stretches -/

theorem Data.sub (left : v.Data) (right : w.Data) (done : Value.sub v w = .ok u) : u.Data := by
  unfold Value.sub at done
  split at done
  · cases left
  · cases left
  · cases right
  · cases right
  · refine data_of_onNumbers ?_ ?_ done
    · intro a b u made
      cases made
      exact .int _
    · intro x y u made
      cases made
      exact .float _

theorem Data.addOther (left : v.Data) (right : w.Data) (done : addSequences.other v w = .ok u) :
    u.Data := by
  unfold addSequences.other at done
  split at done
  · cases done
  · cases left with
    | list front =>
        cases right with
        | list back =>
            cases done
            exact .list (List.forall_mem_append.mpr ⟨front, back⟩)
  · cases done
  · split at done
    · rename_i first second
      cases done
      exact .tuple (List.forall_mem_append.mpr ⟨left.tupleOf first, right.tupleOf second⟩)
    · cases done
    · split at done
      · cases left
      · cases left
      · cases done

theorem Data.addSequences (left : v.Data) (right : w.Data) (done : Value.addSequences v w = .ok u) :
    u.Data := by
  unfold Value.addSequences at done
  split at done
  · cases done
    exact .text _
  · split at done
    · obtain ⟨t, -, done⟩ := bind_eq_ok.mp done
      cases done
      exact .markup _
    · cases done
  · split at done
    · cases done
      exact .markup _
    · exact left.addOther right done
  · exact left.addOther right done

theorem Data.add (left : v.Data) (right : w.Data) (done : Value.add v w = .ok u) : u.Data := by
  unfold Value.add at done
  split at done
  · exact left.addSequences right done
  · refine data_of_onNumbers ?_ ?_ done
    · intro a b u made
      cases made
      exact .int _
    · intro x y u made
      cases made
      exact .float _

theorem mem_of_repeatItems {α : Type} {xs ys : List α} {count : Int}
    (done : repeatItems xs count = .ok ys) : ∀ y ∈ ys, y ∈ xs := by
  obtain ⟨n, -, done⟩ := bind_eq_ok.mp done
  cases done
  intro y member
  obtain ⟨copy, inside, here⟩ := List.mem_flatten.mp member
  rw [List.eq_of_mem_replicate inside] at here
  exact here

theorem data_of_repeatedMarkup {s : String} (done : repeatedMarkup s v = .ok u) : u.Data := by
  unfold repeatedMarkup at done
  split at done
  · obtain ⟨t, -, done⟩ := bind_eq_ok.mp done
    cases done
    exact .markup t
  · cases done

theorem Data.repeated (data : v.Data) {result : Checked Value} (sequence : repeated? v w = some result)
    (done : result = .ok u) : u.Data := by
  subst done
  cases data with
  | text s =>
      obtain ⟨n, -, done⟩ := bind_eq_ok.mp (Option.some.inj sequence)
      obtain ⟨t, -, done⟩ := bind_eq_ok.mp done
      cases done
      exact .text t
  | list all =>
      obtain ⟨n, -, done⟩ := bind_eq_ok.mp (Option.some.inj sequence)
      obtain ⟨ys, copied, done⟩ := bind_eq_ok.mp done
      cases done
      exact .list fun y member => all y (mem_of_repeatItems copied y member)
  | tuple all =>
      obtain ⟨n, -, done⟩ := bind_eq_ok.mp (Option.some.inj sequence)
      obtain ⟨ys, copied, done⟩ := bind_eq_ok.mp done
      cases done
      exact .tuple fun y member => all y (mem_of_repeatItems copied y member)
  | group named all =>
      obtain ⟨n, -, done⟩ := bind_eq_ok.mp (Option.some.inj sequence)
      obtain ⟨ys, copied, done⟩ := bind_eq_ok.mp done
      cases done
      refine .tuple fun y member => ?_
      exact (Data.group named all).tupleOf rfl y (mem_of_repeatItems copied y member)
  | _ => cases sequence

theorem Data.mulSequences (left : v.Data) (right : w.Data) (done : Value.mulSequences v w = .ok u) :
    u.Data := by
  unfold Value.mulSequences at done
  split at done
  · exact data_of_repeatedMarkup done
  · exact data_of_repeatedMarkup done
  · split at done
    · rename_i result sequence
      exact left.repeated sequence done
    · cases sequence : repeated? w v with
      | none =>
          rw [sequence] at done
          cases done
      | some result =>
          rw [sequence] at done
          exact right.repeated sequence done

theorem Data.mul (left : v.Data) (right : w.Data) (done : Value.mul v w = .ok u) : u.Data := by
  unfold Value.mul at done
  split at done
  · exact left.mulSequences right done
  · refine data_of_onNumbers ?_ ?_ done
    · intro a b u made
      cases made
      exact .int _
    · intro x y u made
      cases made
      exact .float _

theorem Stretch.mem_of_pick {α : Type} {s : Stretch} {xs : List α} : ∀ x ∈ s.pick xs, x ∈ xs := by
  intro x member
  obtain ⟨i, -, here⟩ := List.mem_filterMap.mp member
  rw [List.getElem?_toArray] at here
  exact List.mem_of_getElem? here

theorem Data.slice {start stop step : Value} (data : v.Data)
    (done : Value.slice v start stop step = .ok u) : u.Data := by
  cases data with
  | text s =>
      obtain ⟨cut, -, done⟩ := bind_eq_ok.mp done
      cases done
      exact .text _
  | markup s =>
      obtain ⟨cut, -, done⟩ := bind_eq_ok.mp done
      cases done
      exact .markup _
  | list all =>
      obtain ⟨cut, -, done⟩ := bind_eq_ok.mp done
      cases done
      exact .list fun x member => all x (Stretch.mem_of_pick x member)
  | tuple all =>
      obtain ⟨cut, -, done⟩ := bind_eq_ok.mp done
      cases done
      exact .tuple fun x member => all x (Stretch.mem_of_pick x member)
  | group named all =>
      obtain ⟨cut, -, done⟩ := bind_eq_ok.mp done
      cases done
      refine .tuple fun x member => ?_
      exact (Data.group named all).tupleOf rfl x (Stretch.mem_of_pick x member)
  | _ => cases done

end Value

end Stepwise
