import Stepwise.Execution.History

/-!
What a history holds of a run while other runs come and go: the run itself or nothing, and the run as
long as there is room for it.
-/

namespace Stepwise.History

/-- What is done to a history beside a run. -/
inductive Act where
  | store (r : Run)
  | update (id : String) (u : RunUpdate)
  | clear
  deriving Inhabited

namespace Act

def apply (h : History) : Act → History
  | store r => h.store r
  | update id u => h.update id u
  | clear => h.clear

/-- The act is about no run of an id. -/
def Spares (id : String) : Act → Prop
  | store r => r.id ≠ id
  | update other _ => other ≠ id
  | clear => True

/-- The act adds a run at most. -/
def Adds : Act → Prop
  | store _ => True
  | update _ _ => True
  | clear => False

end Act

def replay (h : History) (acts : List Act) : History := acts.foldl Act.apply h

/-- How many runs are stored. -/
def stored (acts : List Act) : Nat :=
  acts.countP fun
    | .store _ => true
    | _ => false

variable {h : History} {id other : String} {r s : Run} {u : RunUpdate}

/-! ### Updates of the first run -/

theorem find?_updateFirst_self (runs : List Run) :
    (updateFirst id u runs).find? (·.id == id) = (runs.find? (·.id == id)).map (·.update u) := by
  induction runs with
  | nil => rfl
  | cons s rest ih =>
      by_cases here : (s.id == id) = true
      · have updated : ((s.update u).id == id) = true := here
        rw [updateFirst, if_pos here, List.find?_cons, List.find?_cons, here, updated]
        rfl
      · rw [updateFirst, if_neg here, List.find?_cons, List.find?_cons, ih, Bool.eq_false_iff.mpr here]

theorem find?_updateFirst_of_ne (apart : other ≠ id) (runs : List Run) :
    (updateFirst other u runs).find? (·.id == id) = runs.find? (·.id == id) := by
  induction runs with
  | nil => rfl
  | cons s rest ih =>
      by_cases here : s.id = other
      · have passed : (s.id == id) = false := by
          rw [here]
          exact beq_false_of_ne apart
        have updated : ((s.update u).id == id) = false := passed
        rw [updateFirst, if_pos (beq_iff_eq.mpr here), List.find?_cons, List.find?_cons, passed,
          updated]
      · rw [updateFirst, if_neg (fun same => here (eq_of_beq same)), List.find?_cons,
          List.find?_cons, ih]

theorem map_id_updateFirst (runs : List Run) :
    (updateFirst id u runs).map (·.id) = runs.map (·.id) := by
  induction runs with
  | nil => rfl
  | cons s rest ih =>
      by_cases here : (s.id == id) = true
      · rw [updateFirst, if_pos here]
        rfl
      · rw [updateFirst, if_neg here, List.map_cons, ih, List.map_cons]

theorem updateFirst_append {pre post : List Run} (absent : ∀ s ∈ pre, s.id ≠ id) :
    updateFirst id u (pre ++ post) = pre ++ updateFirst id u post := by
  induction pre with
  | nil => rfl
  | cons s rest ih =>
      have here : s.id ≠ id := absent s List.mem_cons_self
      rw [List.cons_append, updateFirst, if_neg (fun same => here (eq_of_beq same)),
        ih (fun t later => absent t (List.mem_cons_of_mem s later)), List.cons_append]

/-- An update of another run leaves a run where it is. -/
theorem exists_updateFirst_around (apart : other ≠ r.id) (pre post : List Run) :
    ∃ pre' post', updateFirst other u (pre ++ r :: post) = pre' ++ r :: post' ∧
      pre'.map (·.id) = pre.map (·.id) ∧ post'.map (·.id) = post.map (·.id) := by
  induction pre with
  | nil =>
      refine ⟨[], updateFirst other u post, ?_, rfl, map_id_updateFirst post⟩
      rw [List.nil_append, updateFirst, if_neg (fun same => apart (eq_of_beq same).symm),
        List.nil_append]
  | cons s rest ih =>
      rw [List.cons_append, updateFirst]
      by_cases here : (s.id == other) = true
      · rw [if_pos here]
        exact ⟨s.update u :: rest, post, rfl, rfl, rfl⟩
      · obtain ⟨pre', post', split, front, back⟩ := ih
        rw [if_neg here, split]
        exact ⟨s :: pre', post', rfl, by rw [List.map_cons, front, List.map_cons], back⟩

/-! ### What is found under an id -/

theorem get?_eq_some : h.get? id = some r ↔
    id ∈ h.registered ∧ h.recent.find? (·.id == id) = some r := by
  rw [get?]
  by_cases known : id ∈ h.registered
  · rw [if_pos (List.contains_iff_mem.mpr known)]
    exact (and_iff_right known).symm
  · rw [if_neg (fun same => known (List.contains_iff_mem.mp same))]
    simp [known]

theorem find?_of_find?_take {α : Type} {p : α → Bool} {items : List α} {n : Nat} {a : α}
    (found : (items.take n).find? p = some a) : items.find? p = some a := by
  have whole : (items.take n ++ items.drop n).find? p = some a := by
    rw [List.find?_append, found, Option.some_or]
  rwa [List.take_append_drop] at whole

theorem get?_of_get?_store (apart : s.id ≠ id) (found : (h.store s).get? id = some r) :
    h.get? id = some r := by
  obtain ⟨known, first⟩ := get?_eq_some.mp found
  have listed := find?_of_find?_take first
  rw [List.find?_cons, beq_false_of_ne apart] at listed
  have inserted := (List.mem_filter.mp known).1
  rw [List.mem_insert_iff] at inserted
  exact get?_eq_some.mpr ⟨inserted.resolve_left (fun same => apart same.symm), listed⟩

theorem eq_of_get?_store (found : (h.store s).get? s.id = some r) : r = s := by
  have listed := find?_of_find?_take (get?_eq_some.mp found).2
  rw [List.find?_cons, beq_self_eq_true] at listed
  exact (Option.some.inj listed).symm

theorem get?_update_self : (h.update id u).get? id = (h.get? id).map (·.update u) := by
  rw [update]
  by_cases known : h.registered.contains id = true
  · rw [if_pos known]
    simp only [get?, known, if_true]
    exact find?_updateFirst_self h.recent
  · simp only [if_neg known, get?, Option.map_none]

theorem get?_update_of_ne (apart : other ≠ id) : (h.update other u).get? id = h.get? id := by
  rw [update]
  split
  · simp only [get?, find?_updateFirst_of_ne apart]
  · rfl

/-! ### A run that is not lost to another one -/

/-- Under the id nothing is found but the run. -/
def Holds (h : History) (id : String) (r : Run) : Prop := ∀ found, h.get? id = some found → found = r

theorem holds_store (h : History) (r : Run) : (h.store r).Holds r.id r :=
  fun _ found => eq_of_get?_store found

theorem Holds.update (holds : h.Holds id r) (u : RunUpdate) :
    (h.update id u).Holds id (r.update u) := by
  intro found present
  rw [get?_update_self] at present
  obtain ⟨before, here, rfl⟩ := Option.map_eq_some_iff.mp present
  rw [holds before here]

theorem Holds.apply (holds : h.Holds id r) {a : Act} (spares : a.Spares id) :
    (a.apply h).Holds id r := by
  intro found present
  cases a with
  | store s => exact holds found (get?_of_get?_store spares present)
  | update other u =>
      rw [Act.apply, get?_update_of_ne spares] at present
      exact holds found present
  | clear => cases (get?_eq_some.mp present).1

theorem Holds.replay {acts : List Act} (holds : h.Holds id r)
    (spares : ∀ a ∈ acts, a.Spares id) : (h.replay acts).Holds id r := by
  induction acts generalizing h with
  | nil => exact holds
  | cons a rest ih =>
      obtain ⟨here, later⟩ := List.forall_mem_cons.mp spares
      exact ih (holds.apply here) later

/-! ### A run that there is room for -/

theorem capacity_update : (h.update id u).capacity = h.capacity := by
  rw [update]
  split <;> rfl

theorem capacity_replay {acts : List Act} : (h.replay acts).capacity = h.capacity := by
  induction acts generalizing h with
  | nil => rfl
  | cons a rest ih =>
      rw [replay, List.foldl_cons]
      refine ih.trans ?_
      cases a with
      | store s => rfl
      | update other u => exact capacity_update
      | clear => rfl

/-- The history has the run as the only one of its id, with so many runs at most before it. -/
structure Keeps (h : History) (r : Run) (newer : Nat) : Prop where
  registered : r.id ∈ h.registered
  place : ∃ pre post, h.recent = pre ++ r :: post ∧ pre.length ≤ newer ∧
    ∀ s ∈ pre ++ post, s.id ≠ r.id

theorem Keeps.get? {newer : Nat} (keeps : h.Keeps r newer) : h.get? r.id = some r := by
  obtain ⟨pre, post, recent, -, others⟩ := keeps.place
  refine get?_eq_some.mpr ⟨keeps.registered, ?_⟩
  have passed : pre.find? (·.id == r.id) = none := by
    rw [List.find?_eq_none]
    intro s before same
    exact others s (List.mem_append_left post before) (eq_of_beq same)
  rw [recent, List.find?_append, passed, Option.none_or, List.find?_cons, beq_self_eq_true]

/-- A run leaves its place only to those that are stored after it. -/
theorem Keeps.store {newer : Nat} (keeps : h.Keeps r newer) (apart : s.id ≠ r.id)
    (room : newer + 1 < h.capacity) : (h.store s).Keeps r (newer + 1) := by
  obtain ⟨pre, post, recent, before, others⟩ := keeps.place
  have room' : (s :: pre).length < h.capacity := by
    rw [List.length_cons]
    omega
  have all : s :: h.recent = (s :: pre) ++ r :: post := by rw [recent, List.cons_append]
  -- The cut is made behind the run, so what falls out stood behind it and has another id.
  obtain ⟨rest, split⟩ := Nat.exists_eq_add_of_lt room'
  have kept : (s :: h.recent).take h.capacity = (s :: pre) ++ r :: post.take rest := by
    rw [all, split, Nat.add_assoc, List.take_length_add_append, List.take_succ_cons]
  have left : (s :: h.recent).drop h.capacity = post.drop rest := by
    rw [all, split, Nat.add_assoc, List.drop_length_add_append, List.drop_succ_cons]
  constructor
  · show r.id ∈ List.filter _ _
    rw [List.mem_filter]
    refine ⟨List.mem_insert_of_mem keeps.registered, ?_⟩
    rw [left, Bool.not_eq_true', Bool.eq_false_iff]
    intro evicted
    obtain ⟨t, gone, same⟩ := List.mem_map.mp (List.contains_iff_mem.mp evicted)
    exact others t (List.mem_append_right pre (List.mem_of_mem_drop gone)) same
  · refine ⟨s :: pre, post.take rest, kept, by rw [List.length_cons]; omega, ?_⟩
    intro t member
    rcases List.mem_append.mp member with front | back
    · rcases List.mem_cons.mp front with rfl | old
      · exact apart
      · exact others t (List.mem_append_left post old)
    · exact others t (List.mem_append_right pre (List.mem_of_mem_take back))

theorem keeps_store (fresh : ∀ s ∈ h.recent, s.id ≠ r.id) : (h.store r).Keeps r 0 := by
  obtain ⟨rest, room⟩ := Nat.exists_eq_succ_of_ne_zero (Nat.pos_iff_ne_zero.mp h.capacity_pos)
  constructor
  · show r.id ∈ List.filter _ _
    rw [List.mem_filter]
    refine ⟨List.mem_insert_self, ?_⟩
    rw [room, List.drop_succ_cons, Bool.not_eq_true', Bool.eq_false_iff]
    intro evicted
    obtain ⟨t, gone, same⟩ := List.mem_map.mp (List.contains_iff_mem.mp evicted)
    exact fresh t (List.mem_of_mem_drop gone) same
  · refine ⟨[], h.recent.take rest, ?_, Nat.le_refl 0, ?_⟩
    · show (r :: h.recent).take h.capacity = _
      rw [room, List.take_succ_cons, List.nil_append]
    · intro s member
      exact fresh s (List.mem_of_mem_take member)

theorem Keeps.update_of_ne {newer : Nat} (keeps : h.Keeps r newer) (apart : other ≠ r.id) :
    (h.update other u).Keeps r newer := by
  rw [History.update]
  split
  · obtain ⟨pre, post, recent, before, others⟩ := keeps.place
    obtain ⟨pre', post', split, front, back⟩ :=
      exists_updateFirst_around (u := u) apart pre post
    have length : pre'.length = pre.length := by
      rw [← List.length_map (fun s : Run => s.id), front, List.length_map]
    refine ⟨keeps.registered, pre', post', ?_, length ▸ before, ?_⟩
    · show updateFirst other u h.recent = _
      rw [recent, split]
    · intro s member same
      have among : r.id ∈ (pre' ++ post').map (·.id) := List.mem_map.mpr ⟨s, member, same⟩
      rw [List.map_append, front, back, ← List.map_append] at among
      obtain ⟨t, there, equal⟩ := List.mem_map.mp among
      exact others t there equal
  · exact keeps

/-- A run stays while fewer runs are stored than there is room for. -/
theorem Keeps.replay {newer : Nat} {acts : List Act} (keeps : h.Keeps r newer)
    (spares : ∀ a ∈ acts, a.Spares r.id) (adds : ∀ a ∈ acts, a.Adds)
    (room : newer + stored acts < h.capacity) :
    (h.replay acts).Keeps r (newer + stored acts) := by
  induction acts generalizing h newer with
  | nil => exact keeps
  | cons a rest ih =>
      obtain ⟨apart, others⟩ := List.forall_mem_cons.mp spares
      obtain ⟨adding, additions⟩ := List.forall_mem_cons.mp adds
      cases a with
      | store s =>
          have more : newer + stored (.store s :: rest) = newer + 1 + stored rest := by
            rw [stored, List.countP_cons_of_pos rfl, stored]
            omega
          rw [more] at room ⊢
          exact ih (keeps.store apart (by omega)) others additions room
      | update id u =>
          have same : stored (.update id u :: rest) = stored rest := by
            rw [stored, List.countP_cons_of_neg Bool.false_ne_true, stored]
          rw [same] at room ⊢
          refine ih (keeps.update_of_ne apart) others additions ?_
          show _ < (h.update id u).capacity
          rwa [capacity_update]
      | clear => cases adding

theorem Keeps.update {newer : Nat} (keeps : h.Keeps r newer) (u : RunUpdate) :
    (h.update r.id u).Keeps (r.update u) newer := by
  obtain ⟨pre, post, recent, before, others⟩ := keeps.place
  rw [History.update, if_pos (List.contains_iff_mem.mpr keeps.registered)]
  refine ⟨keeps.registered, pre, post, ?_, before, others⟩
  show updateFirst r.id u h.recent = _
  rw [recent, updateFirst_append (fun s front => others s (List.mem_append_left post front)),
    updateFirst, if_pos (beq_self_eq_true r.id)]

end Stepwise.History
