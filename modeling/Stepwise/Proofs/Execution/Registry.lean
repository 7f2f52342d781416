import Mathlib.Data.List.Induction
import Stepwise.Proofs.Execution.History
import Stepwise.Proofs.Lookup

/-!
What a history lists and what it finds, told by the acts that have led to it. It lists the latest runs
that were stored. A run is found under its id as it was last stored, with the updates since then, while
neither it nor an older run of its id has left the history since it was stored.
-/

namespace Stepwise.History

variable {h : History} {capacity : Nat} {ids : List String} {acts : List Act}
  {id fresh : String} {r : Run}

/-! ### What the acts say -/

/-- What an act does to the ids of the runs that were stored. -/
def Act.log (ids : List String) : Act → List String
  | store r => r.id :: ids
  | update _ _ => ids
  | clear => []

/-- The ids of the runs that have been stored since runs were last forgotten, the latest first. -/
def logged (acts : List Act) : List String := acts.foldl Act.log []

/-- What an act does to the run that was last stored under an id. -/
def Act.keep (id : String) (last? : Option Run) : Act → Option Run
  | store r => if r.id = id then some r else last?
  | update other u => if other = id then last?.map (·.update u) else last?
  | clear => none

/-- The run that was last stored under an id, with the updates since then. -/
def last? (acts : List Act) (id : String) : Option Run := acts.foldl (Act.keep id) none

/-- The id was last stored `n` runs ago, which is less than there is room for, and has not been among
the runs that have left the history since: these stand at the places from the capacity on. -/
def Registers (capacity : Nat) (ids : List String) (id : String) : Prop :=
  ∃ n < capacity, ids[n]? = some id ∧ (∀ k < n, ids[k]? ≠ some id) ∧
    ∀ m, capacity ≤ m → m ≤ n + capacity → ids[m]? ≠ some id

theorem not_registers_nil : ¬Registers capacity [] id := by
  rintro ⟨n, -, found, -⟩
  cases found

/-- Storing a run registers its id, and takes away the registration of the id that leaves. -/
theorem registers_cons (room : 0 < capacity) : Registers capacity (fresh :: ids) id ↔
    (id = fresh ∨ Registers capacity ids id) ∧ (fresh :: ids)[capacity]? ≠ some id := by
  -- All places move by one, so that one more place counts as left: the one at the capacity.
  constructor
  · rintro ⟨n, within, found, first, gone⟩
    refine ⟨?_, gone capacity (Nat.le_refl _) (Nat.le_add_left _ _)⟩
    cases n with
    | zero => exact Or.inl (Option.some.inj found).symm
    | succ n =>
        refine Or.inr ⟨n, by omega, found, ?_, ?_⟩
        · intro k before
          exact first (k + 1) (by omega)
        · intro m low high
          exact gone (m + 1) (by omega) (by omega)
  · rintro ⟨stored, left⟩
    by_cases same : id = fresh
    · refine ⟨0, room, congrArg some same.symm, fun k before => absurd before (Nat.not_lt_zero k), ?_⟩
      intro m low high
      obtain rfl : m = capacity := by omega
      exact left
    · obtain ⟨n, within, found, first, gone⟩ := stored.resolve_left same
      have inner : n + 1 ≠ capacity := by
        rintro rfl
        exact left found
      refine ⟨n + 1, by omega, found, ?_, ?_⟩
      · intro k before
        cases k with
        | zero => exact fun equal => same (Option.some.inj equal).symm
        | succ k => exact first k (by omega)
      · intro m low high
        cases m with
        | zero => omega
        | succ m =>
            by_cases last : m + 1 = capacity
            · rw [last]
              exact left
            · exact gone m (by omega) (by omega)

/-! ### What the history holds -/

theorem mem_evicted (listed : h.recent.map (·.id) = ids.take h.capacity) :
    id ∈ ((r :: h.recent).drop h.capacity).map (·.id) ↔ (r.id :: ids)[h.capacity]? = some id := by
  rw [List.map_drop, List.map_cons, listed, ← List.take_succ_cons, List.mem_iff_getElem?]
  constructor
  · rintro ⟨i, found⟩
    rw [List.getElem?_drop, List.getElem?_take] at found
    split at found
    · obtain rfl : i = 0 := by omega
      exact found
    · cases found
  · intro found
    refine ⟨0, ?_⟩
    rw [List.getElem?_drop, Nat.add_zero, List.getElem?_take, if_pos (Nat.lt_succ_self _)]
    exact found

theorem mem_registered_store : id ∈ (h.store r).registered ↔
    (id = r.id ∨ id ∈ h.registered) ∧ id ∉ ((r :: h.recent).drop h.capacity).map (·.id) := by
  show id ∈ List.filter _ _ ↔ _
  rw [List.mem_filter, List.mem_insert_iff, Bool.not_eq_true', Bool.eq_false_iff, ne_eq,
    List.contains_iff_mem]

theorem ids_update {other : String} {u : RunUpdate} :
    (h.update other u).recent.map (·.id) = h.recent.map (·.id) := by
  rw [update]
  split
  · exact map_id_updateFirst h.recent
  · rfl

theorem registered_update {other : String} {u : RunUpdate} :
    (h.update other u).registered = h.registered := by
  rw [update]
  split <;> rfl

theorem replay_snoc (a : Act) : h.replay (acts ++ [a]) = a.apply (h.replay acts) := by
  rw [replay, List.foldl_append, List.foldl_cons, List.foldl_nil, replay]

theorem logged_snoc (a : Act) : logged (acts ++ [a]) = a.log (logged acts) := by
  rw [logged, List.foldl_append, List.foldl_cons, List.foldl_nil, logged]

theorem last?_snoc (a : Act) : last? (acts ++ [a]) id = a.keep id (last? acts id) := by
  rw [last?, List.foldl_append, List.foldl_cons, List.foldl_nil, last?]

/-- What a history that has come about by some acts lists, and which ids it has registered. -/
structure Accounts (h : History) (ids : List String) : Prop where
  listed : h.recent.map (·.id) = ids.take h.capacity
  registered : ∀ id, id ∈ h.registered ↔ Registers h.capacity ids id

theorem accounts_nil (recent : h.recent = []) (registered : h.registered = []) : h.Accounts [] where
  listed := by rw [recent, List.take_nil, List.map_nil]
  registered id := by
    rw [registered]
    exact iff_of_false List.not_mem_nil not_registers_nil

theorem Accounts.apply (accounts : h.Accounts ids) (a : Act) : (a.apply h).Accounts (a.log ids) := by
  cases a with
  | store r =>
      constructor
      · show ((r :: h.recent).take h.capacity).map (·.id) = (r.id :: ids).take h.capacity
        rw [List.map_take, List.map_cons, accounts.listed, ← List.take_succ_cons, List.take_take,
          Nat.min_eq_left (Nat.le_succ _)]
      · intro id
        show id ∈ (h.store r).registered ↔ Registers h.capacity (r.id :: ids) id
        rw [mem_registered_store, mem_evicted accounts.listed, registers_cons h.capacity_pos,
          accounts.registered id]
  | update other u =>
      constructor
      · show (h.update other u).recent.map (·.id) = ids.take (h.update other u).capacity
        rw [ids_update, capacity_update]
        exact accounts.listed
      · intro id
        show id ∈ (h.update other u).registered ↔ Registers (h.update other u).capacity ids id
        rw [registered_update, capacity_update]
        exact accounts.registered id
  | clear => exact accounts_nil rfl rfl

theorem accounts_replay (empty : h.Accounts []) (acts : List Act) :
    (h.replay acts).Accounts (logged acts) := by
  induction acts using List.reverseRecOn with
  | nil => exact empty
  | append_singleton acts a ih =>
      rw [replay_snoc, logged_snoc]
      exact ih.apply a

theorem last?_of_get? (empty : h.registered = []) (found : (h.replay acts).get? id = some r) :
    last? acts id = some r := by
  induction acts using List.reverseRecOn generalizing r with
  | nil =>
      have known : id ∈ h.registered := (get?_eq_some.mp found).1
      rw [empty] at known
      cases known
  | append_singleton acts a ih =>
      rw [replay_snoc] at found
      rw [last?_snoc]
      -- What is found after the act was found before it, unless the act is about this id.
      cases a with
      | store s =>
          by_cases same : s.id = id
          · subst same
            rw [eq_of_get?_store found]
            exact if_pos rfl
          · exact (if_neg same).trans (ih (get?_of_get?_store same found))
      | update other u =>
          by_cases same : other = id
          · subst same
            rw [Act.apply, get?_update_self] at found
            obtain ⟨before, here, rfl⟩ := Option.map_eq_some_iff.mp found
            rw [ih here]
            exact if_pos rfl
          · rw [Act.apply, get?_update_of_ne same] at found
            exact (if_neg same).trans (ih found)
      | clear =>
          have known := (get?_eq_some.mp found).1
          cases known

theorem exists_get?_iff (accounts : h.Accounts ids) (id : String) :
    (∃ r, h.get? id = some r) ↔ Registers h.capacity ids id := by
  constructor
  · rintro ⟨r, found⟩
    exact (accounts.registered id).mp (get?_eq_some.mp found).1
  · intro registers
    have known := (accounts.registered id).mpr registers
    obtain ⟨n, within, atPlace, -⟩ := registers
    have listed : id ∈ h.recent.map (·.id) := by
      rw [accounts.listed, List.mem_iff_getElem?]
      exact ⟨n, by rw [List.getElem?_take, if_pos within, atPlace]⟩
    obtain ⟨s, member, same⟩ := List.mem_map.mp listed
    cases found : h.recent.find? (·.id == id) with
    | none => exact absurd (beq_iff_eq.mpr same) (List.find?_eq_none.mp found s member)
    | some r => exact ⟨r, get?_eq_some.mpr ⟨known, found⟩⟩

theorem accounts_empty {bound : Int} {start : History} (made : empty bound = .ok start) :
    start.Accounts [] ∧ start.registered = [] ∧ start.capacity = bound.toNat := by
  rw [empty] at made
  split at made
  · cases made
    exact ⟨accounts_nil rfl rfl, rfl, rfl⟩
  · cases made

/-- An id that is not stored again while a run of it is listed stays registered as long as it is
listed. -/
theorem registers_of_apart (apart : ∀ n m, ids[n]? = some id → n < m → m ≤ n + capacity →
    ids[m]? ≠ some id) (listed : id ∈ ids.take capacity) : Registers capacity ids id := by
  obtain ⟨n, within, found⟩ := List.mem_take_iff_getElem.mp listed
  have room : n < capacity := by omega
  have atPlace : ids[n]? = some id := by rw [List.getElem?_eq_getElem (by omega), found]
  refine ⟨n, room, atPlace, ?_, ?_⟩
  · intro k before same
    exact apart k n same before (by omega) atPlace
  · intro m low high
    exact apart n m atPlace (by omega) high

/-- An update of a run that is not found changes nothing. -/
theorem update_of_get?_eq_none {u : RunUpdate} (accounts : h.Accounts ids)
    (absent : h.get? id = none) : h.update id u = h := by
  rw [update]
  split
  · have known : id ∈ h.registered := List.contains_iff_mem.mp ‹_›
    obtain ⟨r, found⟩ := (exists_get?_iff accounts id).mpr ((accounts.registered id).mp known)
    rw [absent] at found
    cases found
  · rfl

/-! ### Pages and counts -/

theorem countP_status (runs : List Run) :
    runs.countP (·.status == .completed) + runs.countP (·.status == .failed) +
      runs.countP (·.status == .running) + runs.countP (·.status == .cancelled) = runs.length := by
  induction runs with
  | nil => rfl
  | cons r rest ih =>
      simp only [List.countP_cons, List.length_cons]
      cases r.status <;> simp <;> omega

theorem page_of_size_le {limit : Int} (large : (h.size : Int) ≤ limit) :
    h.page limit = h.recent := by
  have whole : (Value.clampPlace h.recent.length 0 h.recent.length (0 + limit)).toNat =
      h.recent.length := by
    rw [size] at large
    simp only [Value.clampPlace]
    omega
  have first : (Value.clampPlace h.recent.length 0 h.recent.length 0).toNat = 0 := by
    simp only [Value.clampPlace]
    omega
  rw [page, between]
  dsimp only
  rw [whole, first, List.take_length, List.drop_zero]

/-! ### Ids that are stored once -/

section Once

variable (empty : h.Accounts []) (once : (logged acts).Nodup)
include empty once

theorem nodup_recent : ((h.replay acts).recent.map (·.id)).Nodup := by
  rw [(accounts_replay empty acts).listed]
  exact once.sublist (List.take_sublist _ _)

/-- Where no id is stored twice, every run that is listed is found. -/
theorem get?_of_mem_recent (member : r ∈ (h.replay acts).recent) :
    (h.replay acts).get? r.id = some r := by
  have account := accounts_replay empty acts
  have among : r.id ∈ (h.replay acts).recent.map (·.id) := List.mem_map.mpr ⟨r, member, rfl⟩
  have registers : r.id ∈ (h.replay acts).registered := by
    refine (account.registered r.id).mpr (registers_of_apart ?_ (account.listed ▸ among))
    intro n m here before _ there
    have bound : n < (logged acts).length := (List.getElem?_eq_some_iff.mp here).1
    have same := (List.getElem?_inj bound once).mp (here.trans there.symm)
    omega
  exact get?_eq_some.mpr ⟨registers, Lookup.find?_of_mem (nodup_recent empty once) member⟩

theorem map_some_recent (unregistered : h.registered = []) :
    (h.replay acts).recent.map some = ((logged acts).take h.capacity).map (last? acts) := by
  have kept : (h.replay acts).capacity = h.capacity := capacity_replay
  rw [← kept, ← (accounts_replay empty acts).listed, List.map_map]
  refine List.map_congr_left fun r member => ?_
  exact (last?_of_get? unregistered (get?_of_mem_recent empty once member)).symm

end Once

/-! ### Histories from their beginning -/

/-- A history lists the runs that were stored last, as many as there is room for. A run that it finds
under an id is the latest of that id, with the updates since it was stored. It finds one exactly if the
latest is listed and no older run of its id has left the history since that one was stored; so it finds
every id that is listed, if no id is stored again while a run of it is listed. -/
theorem found_of_replay (bound : Int) (positive : 1 ≤ bound) :
    ∃ start, empty bound = .ok start ∧ ∀ acts : List Act,
      (start.replay acts).size ≤ bound.toNat ∧
      (start.replay acts).recent.map (·.id) = (logged acts).take bound.toNat ∧
      (∀ id r, (start.replay acts).get? id = some r →
        (start.replay acts).recent.find? (·.id == id) = some r ∧ last? acts id = some r) ∧
      (∀ id, (∃ r, (start.replay acts).get? id = some r) ↔
        Registers bound.toNat (logged acts) id) ∧
      ∀ id, (∀ n m, (logged acts)[n]? = some id → n < m → m ≤ n + bound.toNat →
          (logged acts)[m]? ≠ some id) →
        ((∃ r, (start.replay acts).get? id = some r) ↔
          ∃ r ∈ (start.replay acts).recent, r.id = id) := by
  obtain ⟨start, made⟩ : ∃ start, empty bound = .ok start := ⟨_, dif_pos positive⟩
  obtain ⟨accounts, unregistered, room⟩ := accounts_empty made
  refine ⟨start, made, fun acts => ?_⟩
  have kept : (start.replay acts).capacity = bound.toNat := capacity_replay.trans room
  have account := accounts_replay accounts acts
  have listed := account.listed
  have found (id : String) := exists_get?_iff account id
  rw [kept] at listed
  simp only [kept] at found
  refine ⟨kept ▸ (start.replay acts).length_le, listed, ?_, found, ?_⟩
  · intro id r present
    exact ⟨(get?_eq_some.mp present).2, last?_of_get? unregistered present⟩
  · intro id apart
    constructor
    · rintro ⟨r, present⟩
      have first := (get?_eq_some.mp present).2
      exact ⟨r, List.mem_of_find?_eq_some first, eq_of_beq (List.find?_some first :)⟩
    · rintro ⟨r, member, same⟩
      refine (found id).mpr (registers_of_apart apart ?_)
      rw [← listed]
      exact List.mem_map.mpr ⟨r, member, same⟩

/-- The runs of one workflow that start at one time. -/
def titled (id : String) : Run := { id, workflow := "wf", started := default }

/-- The second run of an id is listed after the first has left, and is not found. -/
theorem stored_twice_is_not_found : ∃ start, empty 2 = .ok start ∧
    (start.replay [.store (titled "a"), .store (titled "a"), .store (titled "b")]).recent =
      [titled "b", titled "a"] ∧
    (start.replay [.store (titled "a"), .store (titled "a"), .store (titled "b")]).get? "a" = none :=
  ⟨_, rfl, rfl, by decide +kernel⟩

theorem found_of_replay_pair : ∃ start, empty 2 = .ok start ∧
    ∃ r, (start.replay [.store (titled "a"), .store (titled "b"),
      .update "a" { status? := some .failed }]).get? "a" = some r ∧ r.status = .failed := by
  obtain ⟨start, made, told⟩ := found_of_replay 2 (by decide)
  obtain ⟨-, -, latest, found, -⟩ := told [.store (titled "a"), .store (titled "b"),
    .update "a" { status? := some .failed }]
  have registers : Registers 2 ["b", "a"] "a" := by
    refine registers_of_apart ?_ (by decide)
    intro n m here before within there
    have bound : m < 2 := (List.getElem?_eq_some_iff.mp there).1
    obtain rfl : n = 0 := by omega
    exact absurd here (by decide)
  obtain ⟨r, present⟩ := (found "a").mpr registers
  have last := (latest "a" r present).2
  cases last
  exact ⟨start, made, _, present, rfl⟩

end Stepwise.History
