import Stepwise.Proofs.Lookup
import Stepwise.Repository.Memory

/-!
Workflows in memory while they are stored and removed. No two of them share an id or a key. Storing a
workflow replaces the one that it matches, or else adds it, and leaves all others as they are. The
listing goes from the workflow that was stored last back to the one that has not been stored for longest.
-/

namespace Stepwise

/-! ### What storing makes of a workflow -/

namespace Stored

variable (supply : Supply) (w : Stored) (existing? : Option Stored)

theorem updated?_stamp :
    (w.stamp supply existing?).1.updated? = some (supply.moment supply.momentsUsed) := by
  cases existing? <;> rfl

theorem lastStored_stamp : (w.stamp supply existing?).1.lastStored =
    (supply.moment supply.momentsUsed).instant := by
  rw [lastStored, updated?_stamp]
  rfl

theorem exists_created?_stamp : ∃ t, (w.stamp supply existing?).1.created? = some t := by
  cases existing? <;> exact ⟨_, rfl⟩

theorem supply_stamp : (w.stamp supply existing?).2.moment = supply.moment ∧
    (w.stamp supply existing?).2.momentsUsed = supply.momentsUsed + 1 := by
  cases existing? with
  | some e => exact ⟨rfl, rfl⟩
  | none =>
      simp only [stamp, Supply.idFor, Supply.nextMoment]
      split <;> exact ⟨rfl, rfl⟩

end Stored

/-- The clock is never put back. -/
def Supply.Forward (supply : Supply) : Prop :=
  ∀ m n, m ≤ n → (supply.moment m).instant ≤ (supply.moment n).instant

namespace Memory

/-! ### Changes -/

inductive Change where
  | upsert (w : Stored)
  | delete (id : String)

/-- The workflows in memory, with what is left to stamp them with. -/
structure Shelf where
  memory : Memory := {}
  supply : Supply
  /-- What the changes have stored, the latest first. A deletion stores nothing. -/
  stored : List (Option Stored) := []

namespace Shelf

def change (s : Shelf) : Change → Shelf
  | .upsert w =>
    let (stored, memory, supply) := s.memory.upsert s.supply w
    ⟨memory, supply, some stored :: s.stored⟩
  | .delete id => ⟨(s.memory.delete id).2, s.supply, none :: s.stored⟩

/-- Something was stored under the id. -/
def Names (id : String) (stored? : Option Stored) : Bool := stored?.any (·.id == id)

/-- How many changes have been made since a workflow was last stored under an id. -/
def age (s : Shelf) (id : String) : Nat := s.stored.findIdx (Names id)

/-- The moment that the next storing takes. -/
def now (s : Shelf) : Moment := s.supply.moment s.supply.momentsUsed

end Shelf

/-- The shelf after changes to an empty one. -/
def replay (supply : Supply) (changes : List Change) : Shelf := changes.foldl Shelf.change { supply }

/-- A stored workflow is matched by its id, and by its key where no workflow has the id. The empty id
stands for no id. -/
def Matches (m : Memory) (w e : Stored) : Prop :=
  e ∈ m.entries ∧ (w.id ≠ "" ∧ e.id = w.id ∨
    e.key = w.key ∧ (w.id ≠ "" → ∀ f ∈ m.entries, f.id ≠ w.id))

variable {m : Memory} {w e : Stored} {id : String}

theorem byKey?_eq_none : m.byKey? w.key = none ↔ w.key ∉ m.entries.map (·.key) := by
  simp [byKey?]

theorem existing?_eq_some_iff (ids : (m.entries.map (·.id)).Nodup)
    (keys : (m.entries.map (·.key)).Nodup) : m.existing? w = some e ↔ m.Matches w e := by
  have byKey : m.byKey? w.key = some e ↔ e ∈ m.entries ∧ e.key = w.key :=
    Lookup.find?_eq_some_iff keys
  rw [existing?, Matches]
  by_cases unnamed : w.id = ""
  · rw [if_pos unnamed, Option.none_or, byKey]
    simp [unnamed]
  · rw [if_neg unnamed]
    cases found : m.byId? w.id with
    | some f =>
        obtain ⟨member, same⟩ := (Lookup.find?_eq_some_iff ids).mp found
        rw [Option.some_or, Option.some.injEq]
        constructor
        · rintro rfl
          exact ⟨member, Or.inl ⟨unnamed, same⟩⟩
        · rintro ⟨other, ⟨-, equal⟩ | ⟨-, none⟩⟩
          · exact List.inj_on_of_nodup_map ids member other (same.trans equal.symm)
          · exact absurd same (none unnamed f member)
    | none =>
        have absent : ∀ f ∈ m.entries, f.id ≠ w.id := by
          intro f member same
          exact List.find?_eq_none.mp found f member (beq_iff_eq.mpr same)
        rw [Option.none_or, byKey]
        constructor
        · rintro ⟨member, same⟩
          exact ⟨member, Or.inr ⟨same, fun _ => absent⟩⟩
        · rintro ⟨member, ⟨-, same⟩ | ⟨same, -⟩⟩
          · exact absurd same (absent e member)
          · exact ⟨member, same⟩

theorem byKey?_of_existing? (missing : m.existing? w = none) : m.byKey? w.key = none := by
  rw [existing?, Option.or_eq_none_iff] at missing
  exact missing.2

namespace Shelf

variable {s : Shelf} {stored : List (Option Stored)} {supply : Supply}

theorem names_eq_true {x? : Option Stored} :
    Names id x? = true ↔ ∃ x, x? = some x ∧ x.id = id := by
  cases x? <;> simp [Names]

theorem age_cons_of_names {x? : Option Stored} (names : Names id x? = true) :
    age ⟨m, supply, x? :: stored⟩ id = 0 := by
  rw [age, List.findIdx_cons, names, cond_true]

theorem age_cons_of_not_names {x? : Option Stored} (other : Names id x? = false) :
    age ⟨m, supply, x? :: stored⟩ id = age ⟨m, supply, stored⟩ id + 1 := by
  rw [age, List.findIdx_cons, other, cond_false, age]

/-! ### What all changes keep -/

structure Sound (s : Shelf) : Prop where
  ids : (s.memory.entries.map (·.id)).Nodup
  keys : (s.memory.entries.map (·.key)).Nodup
  created : ∀ e ∈ s.memory.entries, ∃ t, e.created? = some t
  latest : ∀ e ∈ s.memory.entries, s.stored.find? (Names e.id) = some (some e)
  ordered : s.memory.entries.Pairwise fun a b => s.age b.id < s.age a.id

theorem sound_empty (supply : Supply) : Sound { supply } where
  ids := List.nodup_nil
  keys := List.nodup_nil
  created _ absent := nomatch absent
  latest _ absent := nomatch absent
  ordered := List.Pairwise.nil

/-- Once the workflow of an id is gone, something may be stored under that id, and nothing else. -/
theorem Sound.erase (sound : s.Sound) (id : String) (supply : Supply) {x? : Option Stored}
    (only : ∀ other, other ≠ id → Names other x? = false) :
    Sound ⟨s.memory.erase id, supply, x? :: s.stored⟩ := by
  have kept : (s.memory.erase id).entries.Sublist s.memory.entries := List.filter_sublist
  have apart : ∀ e ∈ (s.memory.erase id).entries, Names e.id x? = false := by
    intro e member
    exact only e.id (bne_iff_ne.mp (List.mem_filter.mp member).2)
  constructor
  · exact sound.ids.sublist (kept.map _)
  · exact sound.keys.sublist (kept.map _)
  · exact fun e member => sound.created e (kept.subset member)
  · intro e member
    show (x? :: s.stored).find? (Names e.id) = _
    rw [List.find?_cons, apart e member]
    exact sound.latest e (kept.subset member)
  · refine (sound.ordered.sublist kept).imp_of_mem ?_
    intro a b first second older
    rw [age_cons_of_not_names (apart a first), age_cons_of_not_names (apart b second)]
    exact Nat.succ_lt_succ older

/-- A workflow is filed behind the others if none has its id or its key. -/
theorem Sound.push (sound : Sound ⟨m, supply, some w :: stored⟩)
    (newId : w.id ∉ m.entries.map (·.id)) (newKey : w.key ∉ m.entries.map (·.key))
    (created : ∃ t, w.created? = some t) :
    Sound ⟨⟨m.entries ++ [w]⟩, supply, some w :: stored⟩ := by
  have named : Names w.id (some w) = true := names_eq_true.mpr ⟨w, rfl, rfl⟩
  constructor
  · rw [List.map_append, List.map_singleton]
    exact List.nodup_append_comm.mp (List.nodup_cons.mpr ⟨newId, sound.ids⟩)
  · rw [List.map_append, List.map_singleton]
    exact List.nodup_append_comm.mp (List.nodup_cons.mpr ⟨newKey, sound.keys⟩)
  · intro e member
    rcases List.mem_append.mp member with old | new
    · exact sound.created e old
    · rwa [List.mem_singleton.mp new]
  · intro e member
    rcases List.mem_append.mp member with old | new
    · exact sound.latest e old
    · rw [List.mem_singleton.mp new, List.find?_cons, named]
  · rw [List.pairwise_append]
    refine ⟨sound.ordered, List.pairwise_singleton _ _, ?_⟩
    intro a old b new
    have other : Names a.id (some w) = false := by
      rw [Bool.eq_false_iff, ne_eq, names_eq_true]
      rintro ⟨x, same, equal⟩
      cases same
      exact newId (List.mem_map.mpr ⟨a, old, equal.symm⟩)
    rw [List.mem_singleton.mp new, age_cons_of_names named, age_cons_of_not_names other]
    exact Nat.succ_pos _

/-- What is stored has the key of the workflow that it replaces, or one that no workflow has. -/
theorem Sound.key_not_mem (sound : s.Sound) (w : Stored) :
    (s.memory.upsert s.supply w).1.key ∉
      (s.memory.erase (s.memory.upsert s.supply w).1.id).entries.map (·.key) := by
  intro present
  obtain ⟨f, member, same⟩ := List.mem_map.mp present
  obtain ⟨filed, apart⟩ := List.mem_filter.mp member
  rw [upsert] at same apart
  cases found : s.memory.existing? w with
  | some e =>
      rw [found] at same apart
      obtain ⟨old, -⟩ := (existing?_eq_some_iff sound.ids sound.keys).mp found
      rw [List.inj_on_of_nodup_map sound.keys filed old same] at apart
      exact bne_iff_ne.mp apart rfl
  | none =>
      rw [found] at same
      exact byKey?_eq_none.mp (byKey?_of_existing? found) (List.mem_map.mpr ⟨f, filed, same⟩)

theorem Sound.change (sound : s.Sound) (c : Change) : (s.change c).Sound := by
  cases c with
  | upsert w =>
      refine (sound.erase (s.memory.upsert s.supply w).1.id _ ?_).push ?_
        (sound.key_not_mem w) (Stored.exists_created?_stamp _ _ _)
      · intro other apart
        rw [Bool.eq_false_iff, ne_eq, names_eq_true]
        rintro ⟨x, same, rfl⟩
        cases same
        exact apart rfl
      · intro present
        obtain ⟨f, member, same⟩ := List.mem_map.mp present
        exact bne_iff_ne.mp (List.mem_filter.mp member).2 same
  | delete id => exact sound.erase id s.supply fun other _ => rfl

/-! ### What the clock gives -/

/-- The workflows stand in the order of their latest storing, none later than what is still to come. -/
structure Timely (s : Shelf) : Prop where
  rising : s.memory.entries.Pairwise fun a b => a.lastStored ≤ b.lastStored
  past : ∀ e ∈ s.memory.entries, ∀ n, s.supply.momentsUsed ≤ n →
    e.lastStored ≤ (s.supply.moment n).instant

theorem moment_change (c : Change) : (s.change c).supply.moment = s.supply.moment := by
  cases c with
  | upsert w => exact (Stored.supply_stamp _ _ _).1
  | delete id => rfl

theorem Timely.change (timely : s.Timely) (clock : s.supply.Forward) (c : Change) :
    (s.change c).Timely := by
  cases c with
  | delete id =>
      have kept : (s.memory.erase id).entries.Sublist s.memory.entries := List.filter_sublist
      exact ⟨timely.rising.sublist kept, fun e member => timely.past e (kept.subset member)⟩
  | upsert w =>
      have kept : (s.memory.erase (s.memory.upsert s.supply w).1.id).entries.Sublist
        s.memory.entries := List.filter_sublist
      have last := Stored.lastStored_stamp s.supply w (s.memory.existing? w)
      obtain ⟨moment, used⟩ := Stored.supply_stamp s.supply w (s.memory.existing? w)
      constructor
      · show List.Pairwise _ (_ ++ [_])
        rw [List.pairwise_append]
        refine ⟨timely.rising.sublist kept, List.pairwise_singleton _ _, ?_⟩
        intro a old b new
        rw [List.mem_singleton.mp new]
        exact Int.le_trans (timely.past a (kept.subset old) _ (Nat.le_refl _)) (Int.le_of_eq last.symm)
      · intro e member n later
        change (w.stamp s.supply (s.memory.existing? w)).2.momentsUsed ≤ n at later
        show _ ≤ ((w.stamp s.supply (s.memory.existing? w)).2.moment n).instant
        rw [used] at later
        rw [moment]
        rcases List.mem_append.mp member with old | new
        · exact timely.past e (kept.subset old) n (by omega)
        · rw [List.mem_singleton.mp new]
          exact Int.le_trans (Int.le_of_eq last) (clock _ n (by omega))

theorem Timely.list_eq (timely : s.Timely) : s.memory.list = s.memory.entries.reverse := by
  apply List.mergeSort_of_pairwise
  rw [List.pairwise_reverse]
  exact timely.rising.imp fun before => decide_eq_true before

end Shelf

theorem sound_replay (supply : Supply) (changes : List Change) : (replay supply changes).Sound := by
  have kept (s : Shelf) (sound : s.Sound) : (changes.foldl Shelf.change s).Sound := by
    induction changes generalizing s with
    | nil => exact sound
    | cons c rest ih => exact ih _ (sound.change c)
  exact kept _ (Shelf.sound_empty supply)

theorem timely_replay {supply : Supply} (clock : supply.Forward) (changes : List Change) :
    (replay supply changes).Timely := by
  have kept (s : Shelf) (timely : s.Timely) (forward : s.supply.Forward) :
      (changes.foldl Shelf.change s).Timely := by
    induction changes generalizing s with
    | nil => exact timely
    | cons c rest ih =>
        refine ih _ (timely.change forward c) ?_
        rwa [Supply.Forward, Shelf.moment_change]
  exact kept _ ⟨List.Pairwise.nil, fun _ absent => nomatch absent⟩ clock

/-! ### Storing and removing -/

namespace Shelf

/-- What is in memory and how it is listed. -/
structure Kept (s : Shelf) : Prop where
  filed : ∀ e ∈ s.memory.entries, s.memory.byId? e.id = some e
  ids : (s.memory.entries.map (·.id)).Nodup
  keys : (s.memory.entries.map (·.key)).Nodup
  latest : ∀ e ∈ s.memory.entries, s.stored.find? (Names e.id) = some (some e)
  once : s.memory.list.Perm s.memory.entries
  latestFirst : s.memory.list.Pairwise fun a b => s.age a.id < s.age b.id

/-- What storing a workflow does. An id that is handed out must be one that no workflow has. -/
structure Stores (s : Shelf) (w : Stored) : Prop where
  replaces : ∀ e, s.memory.Matches w e → ∃ pre post, s.memory.entries = pre ++ e :: post ∧
    (s.memory.upsert s.supply w).1 = { w with
      id := e.id
      key := e.key
      created? := e.created?
      updated? := some s.now } ∧
    (s.memory.upsert s.supply w).2.1.entries = pre ++ post ++ [(s.memory.upsert s.supply w).1]
  adds : (∀ e, ¬s.memory.Matches w e) →
    (w.id = "" → s.supply.id s.supply.idsUsed ∉ s.memory.entries.map (·.id)) →
    (s.memory.upsert s.supply w).1 = { w with
      id := if w.id = "" then s.supply.id s.supply.idsUsed else w.id
      created? := some (w.created?.getD s.now)
      updated? := some s.now } ∧
    (s.memory.upsert s.supply w).2.1.entries =
      s.memory.entries ++ [(s.memory.upsert s.supply w).1]

/-- What removing the workflow of an id does. -/
structure Removes (s : Shelf) (id : String) : Prop where
  there : ∀ e ∈ s.memory.entries, e.id = id → ∃ pre post, s.memory.entries = pre ++ e :: post ∧
    s.memory.delete id = (true, ⟨pre ++ post⟩)
  absent : (∀ e ∈ s.memory.entries, e.id ≠ id) → s.memory.delete id = (false, s.memory)

variable {s : Shelf}

theorem Sound.kept (sound : s.Sound) (timely : s.Timely) : s.Kept where
  filed _ member := Lookup.find?_of_mem sound.ids member
  ids := sound.ids
  keys := sound.keys
  latest := sound.latest
  once := by
    rw [timely.list_eq]
    exact List.reverse_perm _
  latestFirst := by
    rw [timely.list_eq, List.pairwise_reverse]
    exact sound.ordered

theorem Sound.stores (sound : s.Sound) (w : Stored) : s.Stores w := by
  have matched := fun e => existing?_eq_some_iff (w := w) (e := e) sound.ids sound.keys
  have filed : (s.memory.upsert s.supply w).2.1.entries =
      s.memory.entries.filter (·.id != (s.memory.upsert s.supply w).1.id) ++
        [(s.memory.upsert s.supply w).1] := rfl
  constructor
  · intro e same
    obtain ⟨t, created⟩ := sound.created e same.1
    obtain ⟨pre, post, split, others⟩ := Lookup.exists_filter_around sound.ids same.1
    have stamped : (s.memory.upsert s.supply w).1 = { w with
        id := e.id
        key := e.key
        created? := e.created?
        updated? := some s.now } := by
      rw [upsert, (matched e).mpr same, created]
      simp only [Stored.stamp, Supply.nextMoment, created, Option.getD_some, now]
    refine ⟨pre, post, split, stamped, ?_⟩
    rw [filed, show (s.memory.upsert s.supply w).1.id = e.id by rw [stamped], others]
  · intro unmatched fresh
    have missing : s.memory.existing? w = none := by
      rw [Option.eq_none_iff_forall_ne_some]
      exact fun e found => unmatched e ((matched e).mp found)
    have stamped : (s.memory.upsert s.supply w).1 = { w with
        id := if w.id = "" then s.supply.id s.supply.idsUsed else w.id
        created? := some (w.created?.getD s.now)
        updated? := some s.now } := by
      rw [upsert, missing]
      simp only [Stored.stamp, Supply.nextMoment, Supply.idFor, now]
      split <;> rfl
    have absent : (s.memory.upsert s.supply w).1.id ∉ s.memory.entries.map (·.id) := by
      rw [stamped]
      show (if _ then _ else _) ∉ _
      split
      · exact fresh ‹_›
      · rename_i named
        intro present
        obtain ⟨f, member, same⟩ := List.mem_map.mp present
        exact unmatched f ⟨member, Or.inl ⟨named, same⟩⟩
    exact ⟨stamped, by rw [filed, Lookup.filter_of_not_mem absent]⟩

theorem Sound.removes (sound : s.Sound) (id : String) : s.Removes id := by
  constructor
  · rintro e member rfl
    obtain ⟨pre, post, split, others⟩ := Lookup.exists_filter_around sound.ids member
    have found : s.memory.byId? e.id = some e := Lookup.find?_of_mem sound.ids member
    refine ⟨pre, post, split, ?_⟩
    simp only [delete, found, Option.isSome_some, Memory.erase, others]
  · intro absent
    have unnamed : id ∉ s.memory.entries.map (·.id) := by
      intro present
      obtain ⟨f, member, same⟩ := List.mem_map.mp present
      exact absent f member same
    have missing : s.memory.byId? id = none := Lookup.find?_of_not_mem unnamed
    have others := Lookup.filter_of_not_mem unnamed
    simp only [delete, missing, Option.isSome_none, Memory.erase, others]

end Shelf

/-- Whatever has been stored and removed, every workflow is found under its id, no two share an id or a
key, each is as it was last stored, and the listing has each once, the last stored first. A workflow
that is stored replaces the one that it matches, under the id and the key and with the first moment of
that one, or is added where it matches none; all other workflows stay as they are. -/
theorem kept_of_replay (supply : Supply) (clock : supply.Forward) (changes : List Change) :
    (replay supply changes).Kept ∧
      (∀ w, (replay supply changes).Stores w) ∧ ∀ id, (replay supply changes).Removes id := by
  have sound := sound_replay supply changes
  exact ⟨sound.kept (timely_replay clock changes), sound.stores, sound.removes⟩

/-- A workflow without steps. -/
def titled (id key : String) : Stored := { id, key, name := "", definition := default }

/-- A supply whose clock goes in seconds, and whose ids are numbers. -/
def ticking : Supply := { moment := fun n => { seconds := n }, id := Nat.repr }

theorem forward_ticking : ticking.Forward := by
  intro m n before
  simp only [ticking, Moment.instant]
  omega

/-- Two workflows, of which the second has been handed its id. -/
def pair : Shelf := replay ticking [.upsert (titled "a" "x"), .upsert (titled "" "y")]

theorem kept_of_replay_pair :
    (∃ e, pair.memory.Matches (titled "b" "y") e ∧ e.id = "0" ∧
      (pair.memory.upsert pair.supply (titled "b" "y")).1 = { titled "0" "y" with
        created? := some { seconds := 1 }
        updated? := some { seconds := 2 } }) ∧
    "1" ∉ pair.memory.entries.map (·.id) ∧
    (pair.memory.upsert pair.supply (titled "" "z")).2.1.entries.map (·.id) = ["a", "0", "1"] ∧
    pair.memory.list.Pairwise fun a b => pair.age a.id < pair.age b.id := by
  obtain ⟨kept, stores, -⟩ := kept_of_replay ticking forward_ticking
    [.upsert (titled "a" "x"), .upsert (titled "" "y")]
  have fresh : "1" ∉ pair.memory.entries.map (·.id) := by decide
  refine ⟨?_, fresh, ?_, kept.latestFirst⟩
  · have matches' : pair.memory.Matches (titled "b" "y") { titled "0" "y" with
        created? := some { seconds := 1 }
        updated? := some { seconds := 1 } } := by
      refine ⟨List.mem_cons_of_mem _ List.mem_cons_self, Or.inr ⟨rfl, fun _ f member => ?_⟩⟩
      have ids : f.id ∈ ["a", "0"] := List.mem_map.mpr ⟨f, member, rfl⟩
      rintro same
      rw [same] at ids
      exact absurd ids (by decide)
    obtain ⟨_, _, -, stored, -⟩ := (stores (titled "b" "y")).replaces _ matches'
    exact ⟨_, matches', rfl, stored⟩
  · have unmatched : ∀ e, ¬pair.memory.Matches (titled "" "z") e := by
      rintro e ⟨member, ⟨unnamed, -⟩ | ⟨same, -⟩⟩
      · exact unnamed rfl
      · have keys : e.key ∈ ["x", "y"] := List.mem_map.mpr ⟨e, member, rfl⟩
        rw [same] at keys
        exact absurd keys (by decide)
    obtain ⟨stored, entries⟩ := (stores (titled "" "z")).adds unmatched fun _ => fresh
    show List.map _ (pair.memory.upsert pair.supply (titled "" "z")).2.1.entries = _
    rw [show (pair.memory.upsert pair.supply (titled "" "z")).2.1.entries = _ from entries]
    rfl

end Memory

end Stepwise
