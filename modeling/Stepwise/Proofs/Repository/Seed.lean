import Stepwise.Proofs.Repository.Memory
import Stepwise.Repository.Seed

/-!
Seeding. A workflow that is stored finds its place by its id and by its key, and storing it fixes that
place: it is found there again, and by no other workflow with another id and another key that was not there
before. So the built-in workflows, stored twice, are filed twice in the same places, which leaves everything
but the moments of storing as it was.
-/

namespace Stepwise

namespace Stored

/-- A stored workflow without the moment of its latest storing. -/
def undated (s : Stored) : Stored := { s with updated? := none }

/-- A workflow in the place of another, without a moment of its latest storing. -/
def inPlaceOf (w e : Stored) : Stored :=
  { w with
    id := e.id
    key := e.key
    created? := e.created?
    updated? := none }

/-- What is stored is in its own place. -/
theorem undated_stamp (supply : Supply) (w : Stored) (existing? : Option Stored) :
    (w.stamp supply existing?).1.undated = w.inPlaceOf (w.stamp supply existing?).1 := by
  cases existing? <;> rfl

theorem inPlaceOf_of_undated {v w x y : Stored} (same : x.undated = v.inPlaceOf y) :
    w.inPlaceOf x = w.inPlaceOf y := by
  have id : x.undated.id = (v.inPlaceOf y).id := congrArg Stored.id same
  have key : x.undated.key = (v.inPlaceOf y).key := congrArg Stored.key same
  have created : x.undated.created? = (v.inPlaceOf y).created? := congrArg Stored.created? same
  rw [inPlaceOf, show x.id = y.id from id, show x.key = y.key from key,
    show x.created? = y.created? from created]
  rfl

end Stored

namespace Memory

variable {m : Memory} {w v e : Stored} {id : String}

/-! ### Places -/

/-- The id and the key of each workflow. -/
def labels (m : Memory) : List (String × String) := m.entries.map fun e => (e.id, e.key)

/-- The id of the workflow that storing replaces. -/
def place? (m : Memory) (w : Stored) : Option String := (m.existing? w).map (·.id)

/-- The id under which a workflow is stored, if it has one itself. -/
def place (m : Memory) (w : Stored) : String := (m.place? w).getD w.id

/-- An id has the label that a workflow is matched by. -/
def Picks (labels : List (String × String)) (w : Stored) (id : String) : Prop :=
  ∃ key, (id, key) ∈ labels ∧ (id = w.id ∨ key = w.key ∧ ∀ l ∈ labels, l.1 ≠ w.id)

theorem mem_labels (member : e ∈ m.entries) : (e.id, e.key) ∈ m.labels :=
  List.mem_map.mpr ⟨e, member, rfl⟩

namespace Shelf

variable {s : Shelf}

theorem Sound.place?_eq_some_iff (sound : s.Sound) (named : w.id ≠ "") :
    s.memory.place? w = some id ↔ Picks s.memory.labels w id := by
  rw [place?, Option.map_eq_some_iff]
  constructor
  · rintro ⟨e, found, rfl⟩
    obtain ⟨member, how⟩ := (existing?_eq_some_iff sound.ids sound.keys).mp found
    refine ⟨e.key, mem_labels member, ?_⟩
    rcases how with ⟨-, same⟩ | ⟨same, absent⟩
    · exact Or.inl same
    · right
      refine ⟨same, fun l inside => ?_⟩
      obtain ⟨f, filed, rfl⟩ := List.mem_map.mp inside
      exact absent named f filed
  · rintro ⟨key, label, how⟩
    obtain ⟨e, member, same⟩ := List.mem_map.mp label
    cases same
    refine ⟨e, (existing?_eq_some_iff sound.ids sound.keys).mpr ⟨member, ?_⟩, rfl⟩
    rcases how with same | ⟨same, absent⟩
    · exact Or.inl ⟨named, same⟩
    · exact Or.inr ⟨same, fun _ f filed => absent _ (mem_labels filed)⟩

/-- A workflow is replaced exactly if it has the id under which the other one is stored. -/
theorem Sound.matches_iff (sound : s.Sound) (named : w.id ≠ "") (member : e ∈ s.memory.entries) :
    s.memory.Matches w e ↔ e.id = s.memory.place w := by
  rw [← existing?_eq_some_iff sound.ids sound.keys, place, place?]
  constructor
  · intro found
    rw [found]
    rfl
  · intro same
    cases found : s.memory.existing? w with
    | some f =>
        rw [found] at same
        have filed := ((existing?_eq_some_iff sound.ids sound.keys).mp found).1
        rw [List.inj_on_of_nodup_map sound.ids member filed same]
    | none =>
        rw [found] at same
        rw [← found]
        exact (existing?_eq_some_iff sound.ids sound.keys).mpr ⟨member, Or.inl ⟨named, same⟩⟩

/-! ### Storing -/

/-- What storing a workflow puts on the shelf. -/
def stores (s : Shelf) (w : Stored) : Stored := (s.memory.upsert s.supply w).1

theorem entries_upsert (s : Shelf) (w : Stored) : (s.change (.upsert w)).memory.entries =
    s.memory.entries.filter (·.id != (s.stores w).id) ++ [s.stores w] := rfl

theorem id_stores (named : w.id ≠ "") (s : Shelf) : (s.stores w).id = s.memory.place w := by
  rw [stores, upsert, place, place?]
  cases found : s.memory.existing? w with
  | some e => rfl
  | none =>
      simp only [Stored.stamp, Supply.idFor, if_neg named]
      rfl

/-- What replaces a workflow is in its place. -/
theorem Sound.undated_stores (sound : s.Sound) (named : w.id ≠ "") (member : e ∈ s.memory.entries)
    (same : e.id = s.memory.place w) : (s.stores w).undated = w.inPlaceOf e := by
  have matched := (sound.matches_iff named member).mpr same
  obtain ⟨_, _, -, stored, -⟩ := (sound.stores w).replaces e matched
  rw [Shelf.stores, stored]
  rfl

/-- Storing keeps the labels, and adds that of a workflow that matches none. -/
theorem Sound.mem_labels_upsert (sound : s.Sound) (named : w.id ≠ "") (l : String × String) :
    l ∈ (s.change (.upsert w)).memory.labels ↔
      l ∈ s.memory.labels ∨ s.memory.place? w = none ∧ l = (w.id, w.key) := by
  unfold labels place?
  cases found : s.memory.existing? w with
  | some e =>
      have matched := (existing?_eq_some_iff sound.ids sound.keys).mp found
      obtain ⟨pre, post, split, stored, filed⟩ := (sound.stores w).replaces e matched
      rw [show (s.change (.upsert w)).memory.entries = _ from filed, split, stored]
      simp only [List.map_append, List.map_cons, List.map_nil, List.mem_append, List.mem_cons,
        List.not_mem_nil, or_false, Option.map_some, reduceCtorEq, false_and]
      rw [or_assoc, or_comm (b := l = (e.id, e.key))]
  | none =>
      have unmatched (e : Stored) : ¬s.memory.Matches w e := by
        rw [← existing?_eq_some_iff sound.ids sound.keys, found]
        rintro ⟨⟩
      obtain ⟨stored, filed⟩ := (sound.stores w).adds unmatched fun unnamed => absurd unnamed named
      rw [show (s.change (.upsert w)).memory.entries = _ from filed, stored]
      simp [if_neg named]

/-- A workflow is found again where it was stored. -/
theorem Sound.place?_upsert_self (sound : s.Sound) (named : w.id ≠ "") :
    (s.change (.upsert w)).memory.place? w = some (s.memory.place w) := by
  rw [(sound.change _).place?_eq_some_iff named, place]
  cases found : s.memory.place? w with
  | some id =>
      obtain ⟨key, label, how⟩ := (sound.place?_eq_some_iff named).mp found
      refine ⟨key, (sound.mem_labels_upsert named _).mpr (Or.inl label), how.imp_right ?_⟩
      rintro ⟨same, absent⟩
      refine ⟨same, fun l inside => ?_⟩
      rcases (sound.mem_labels_upsert named l).mp inside with old | ⟨none, -⟩
      · exact absent l old
      · rw [found] at none
        cases none
  | none =>
      exact ⟨w.key, (sound.mem_labels_upsert named _).mpr (Or.inr ⟨found, rfl⟩), Or.inl rfl⟩

/-- Storing a workflow does not move another one that has another id and another key. -/
theorem Sound.place?_upsert_of_ne (sound : s.Sound) (namedV : v.id ≠ "") (named : w.id ≠ "")
    (otherId : v.id ≠ w.id) (otherKey : v.key ≠ w.key) :
    (s.change (.upsert v)).memory.place? w = s.memory.place? w := by
  apply Option.ext
  intro id
  rw [(sound.change _).place?_eq_some_iff named, sound.place?_eq_some_iff named]
  constructor
  · rintro ⟨key, label, how⟩
    refine ⟨key, ?_, how.imp_right fun ⟨same, absent⟩ => ⟨same, fun l old => ?_⟩⟩
    · rcases (sound.mem_labels_upsert namedV _).mp label with old | ⟨-, new⟩
      · exact old
      · cases new
        rcases how with same | ⟨same, -⟩
        · exact absurd same otherId
        · exact absurd same otherKey
    · exact absent l ((sound.mem_labels_upsert namedV l).mpr (Or.inl old))
  · rintro ⟨key, label, how⟩
    refine ⟨key, (sound.mem_labels_upsert namedV _).mpr (Or.inl label), ?_⟩
    refine how.imp_right fun ⟨same, absent⟩ => ⟨same, fun l inside => ?_⟩
    rcases (sound.mem_labels_upsert namedV l).mp inside with old | ⟨-, rfl⟩
    · exact absent l old
    · exact otherId

/-! ### Storing two workflows -/

/-- Two workflows are told apart by their ids and by their keys. -/
structure Apart (v w : Stored) : Prop where
  left : v.id ≠ ""
  right : w.id ≠ ""
  ids : v.id ≠ w.id
  keys : v.key ≠ w.key

def storePair (s : Shelf) (v w : Stored) : Shelf := (s.change (.upsert v)).change (.upsert w)

/-- The workflows that neither of two replaces. -/
def unmoved (s : Shelf) (v w : Stored) : List Stored :=
  s.memory.entries.filter fun e => e.id != s.memory.place v && e.id != s.memory.place w

/-- What storing two workflows puts on the shelf. If they have one place, the second replaces the first. -/
def placed (s : Shelf) (v w : Stored) : List Stored :=
  (if s.memory.place v = s.memory.place w then [] else [s.stores v]) ++
    [(s.change (.upsert v)).stores w]

theorem Sound.storePair (sound : s.Sound) (v w : Stored) : (s.storePair v w).Sound :=
  (sound.change _).change _

theorem Sound.place_upsert (sound : s.Sound) (apart : Apart v w) :
    (s.change (.upsert v)).memory.place w = s.memory.place w := by
  rw [place, sound.place?_upsert_of_ne apart.left apart.right apart.ids apart.keys]
  rfl

theorem Sound.places_storePair (sound : s.Sound) (apart : Apart v w) :
    (s.storePair v w).memory.place v = s.memory.place v ∧
      (s.storePair v w).memory.place w = s.memory.place w := by
  have next := sound.change (.upsert v)
  constructor
  · rw [Shelf.storePair, place, next.place?_upsert_of_ne apart.right apart.left apart.ids.symm apart.keys.symm,
      sound.place?_upsert_self apart.left]
    rfl
  · rw [Shelf.storePair, place, next.place?_upsert_self apart.right, sound.place_upsert apart]
    rfl

theorem Sound.id_second (sound : s.Sound) (apart : Apart v w) :
    ((s.change (.upsert v)).stores w).id = s.memory.place w := by
  rw [id_stores apart.right, sound.place_upsert apart]

/-- Two workflows that are stored stand behind all others. -/
theorem Sound.entries_storePair (sound : s.Sound) (apart : Apart v w) :
    (s.storePair v w).memory.entries = s.unmoved v w ++ s.placed v w := by
  have first : ([s.stores v].filter fun e => e.id != s.memory.place w) =
      if s.memory.place v = s.memory.place w then [] else [s.stores v] := by
    rw [List.filter_singleton, id_stores apart.left]
    by_cases one : s.memory.place v = s.memory.place w
    · rw [if_pos one, one, bne_self_eq_false, cond_false]
    · rw [if_neg one, bne_iff_ne.mpr one, cond_true]
  rw [Shelf.storePair, entries_upsert, entries_upsert, sound.id_second apart, id_stores apart.left,
    List.filter_append, List.filter_filter, first, unmoved, placed, List.append_assoc]
  simp only [Bool.and_comm]

theorem length_placed_le (s : Shelf) (v w : Stored) : (s.placed v w).length ≤ 2 := by
  unfold placed
  split <;> simp

theorem Sound.id_of_mem_placed (sound : s.Sound) (apart : Apart v w) (member : e ∈ s.placed v w) :
    e.id = s.memory.place v ∨ e.id = s.memory.place w := by
  rcases List.mem_append.mp member with first | second
  · split at first
    · cases first
    · left
      rw [List.mem_singleton.mp first, id_stores apart.left]
  · right
    rw [List.mem_singleton.mp second, sound.id_second apart]

/-- What is unmoved once is unmoved again, and what was placed is moved. -/
theorem Sound.unmoved_storePair (sound : s.Sound) (apart : Apart v w) :
    (s.storePair v w).unmoved v w = s.unmoved v w := by
  obtain ⟨left, right⟩ := sound.places_storePair apart
  have none : ((s.placed v w).filter fun e => e.id != s.memory.place v && e.id != s.memory.place w) = [] := by
    rw [List.filter_eq_nil_iff]
    intro e member
    rcases sound.id_of_mem_placed apart member with same | same <;> simp [same]
  rw [unmoved, left, right, sound.entries_storePair apart, List.filter_append, none, List.append_nil, unmoved,
    List.filter_filter]
  simp only [Bool.and_self]

/-! ### Storing two workflows again -/

theorem Sound.last_mem (sound : s.Sound) (apart : Apart v w) :
    (s.change (.upsert v)).stores w ∈ (s.storePair v w).memory.entries := by
  rw [sound.entries_storePair apart]
  exact List.mem_append_right _ (List.mem_append_right _ (List.mem_singleton_self _))

theorem Sound.id_again (sound : s.Sound) (apart : Apart v w) :
    ((s.storePair v w).stores v).id = s.memory.place v := by
  rw [id_stores apart.left, (sound.places_storePair apart).1]

theorem Sound.place_again (sound : s.Sound) (apart : Apart v w) :
    ((s.storePair v w).change (.upsert v)).memory.place w = s.memory.place w := by
  rw [(sound.storePair v w).place_upsert apart, (sound.places_storePair apart).2]

/-- Where two workflows have one place, the first replaces the second, which replaces it in turn. -/
theorem Sound.undated_again_of_eq (sound : s.Sound) (apart : Apart v w)
    (one : s.memory.place v = s.memory.place w) :
    (((s.storePair v w).change (.upsert v)).stores w).undated =
      ((s.change (.upsert v)).stores w).undated := by
  have next := sound.storePair v w
  have left := (sound.places_storePair apart).1
  have taken : ((s.storePair v w).stores v).undated = v.inPlaceOf ((s.change (.upsert v)).stores w) :=
    next.undated_stores apart.left (sound.last_mem apart) (by rw [sound.id_second apart, left, one])
  have first : (s.storePair v w).stores v ∈ ((s.storePair v w).change (.upsert v)).memory.entries := by
    rw [entries_upsert]
    exact List.mem_append_right _ (List.mem_singleton_self _)
  have back : (((s.storePair v w).change (.upsert v)).stores w).undated =
      w.inPlaceOf ((s.storePair v w).stores v) :=
    (next.change (.upsert v)).undated_stores apart.right first
      (by rw [sound.id_again apart, sound.place_again apart, one])
  rw [back, Stored.inPlaceOf_of_undated taken]
  exact (Stored.undated_stamp _ _ _).symm

section Two

variable (sound : s.Sound) (apart : Apart v w) (two : s.memory.place v ≠ s.memory.place w)
include sound apart two

/-- Where two workflows have two places, each replaces itself. -/
theorem Sound.undated_first_of_ne : ((s.storePair v w).stores v).undated = (s.stores v).undated := by
  have first : s.stores v ∈ (s.storePair v w).memory.entries := by
    rw [sound.entries_storePair apart, placed, if_neg two]
    exact List.mem_append_right _ (List.mem_append_left _ (List.mem_singleton_self _))
  rw [(sound.storePair v w).undated_stores apart.left first
    (by rw [id_stores apart.left, (sound.places_storePair apart).1])]
  exact (Stored.undated_stamp _ _ _).symm

theorem Sound.undated_second_of_ne :
    (((s.storePair v w).change (.upsert v)).stores w).undated =
      ((s.change (.upsert v)).stores w).undated := by
  have kept : (s.change (.upsert v)).stores w ∈
      ((s.storePair v w).change (.upsert v)).memory.entries := by
    rw [entries_upsert, sound.id_again apart]
    refine List.mem_append_left _ (List.mem_filter.mpr ⟨sound.last_mem apart, ?_⟩)
    rw [sound.id_second apart, bne_iff_ne]
    exact Ne.symm two
  rw [((sound.storePair v w).change (.upsert v)).undated_stores apart.right kept
    (by rw [sound.id_second apart, sound.place_again apart])]
  exact (Stored.undated_stamp _ _ _).symm

end Two

/-- What is placed again is what was placed, apart from the moment of storing. -/
theorem Sound.undated_placed (sound : s.Sound) (apart : Apart v w) :
    ((s.storePair v w).placed v w).map Stored.undated = (s.placed v w).map Stored.undated := by
  obtain ⟨left, right⟩ := sound.places_storePair apart
  unfold placed
  rw [left, right]
  by_cases one : s.memory.place v = s.memory.place w
  · rw [if_pos one, if_pos one]
    simp only [List.nil_append, List.map_singleton]
    rw [sound.undated_again_of_eq apart one]
  · rw [if_neg one, if_neg one]
    simp only [List.map_append, List.map_singleton]
    rw [sound.undated_first_of_ne apart one, sound.undated_second_of_ne apart one]

end Shelf

/-! ### Seeding -/

namespace Shelf

variable {s : Shelf}

/-- A workflow keeps its id, its key and the moment of its first storing while others are stored. -/
theorem Sound.exists_kept (sound : s.Sound) (named : w.id ≠ "") (member : e ∈ s.memory.entries) :
    ∃ f ∈ (s.change (.upsert w)).memory.entries,
      f.id = e.id ∧ f.key = e.key ∧ f.created? = e.created? := by
  rw [entries_upsert]
  by_cases same : e.id = s.memory.place w
  · have taken := sound.undated_stores named member same
    refine ⟨s.stores w, List.mem_append_right _ (List.mem_singleton_self _), ?_⟩
    have key : (s.stores w).undated.key = (w.inPlaceOf e).key := congrArg Stored.key taken
    have created : (s.stores w).undated.created? = (w.inPlaceOf e).created? :=
      congrArg Stored.created? taken
    exact ⟨(id_stores named s).trans same.symm, key, created⟩
  · refine ⟨e, List.mem_append_left _ (List.mem_filter.mpr ⟨member, ?_⟩), rfl, rfl, rfl⟩
    rw [id_stores named, bne_iff_ne]
    exact same

theorem Sound.mem_unmoved_iff (sound : s.Sound) (apart : Apart v w) (member : e ∈ s.memory.entries) :
    e ∈ s.unmoved v w ↔ ¬s.memory.Matches v e ∧ ¬s.memory.Matches w e := by
  rw [unmoved, List.mem_filter, Bool.and_eq_true, bne_iff_ne, bne_iff_ne,
    sound.matches_iff apart.left member, sound.matches_iff apart.right member]
  exact and_iff_right member

end Shelf

/-- The built-in workflows as they are stored. -/
def overview : Stored := .ofDefinition Builtin.channelOverview

def analysis : Stored := .ofDefinition Builtin.competitorAnalysis

theorem apart_builtin : Shelf.Apart overview analysis where
  left := by decide
  right := by decide
  ids := by decide
  keys := by decide

theorem storePair_replay (supply : Supply) (changes : List Change) (v w : Stored) :
    (replay supply changes).storePair v w = replay supply (changes ++ [.upsert v, .upsert w]) := by
  rw [replay, replay, List.foldl_append]
  rfl

/-- Seeding a memory files at most two workflows behind the others. The others, which no built-in workflow
matches, stay as they are and in their order, and no workflow loses its id, its key or the moment of its
first storing. Seeding a second time changes the moments of the latest storing and nothing else, and the
listing has the same workflows in the same order. -/
theorem seeds_of_replay (supply : Supply) (clock : supply.Forward) (changes : List Change) :
    let s := replay supply changes
    let once := (s.memory.seed s.supply).2
    let twice := (once.1.seed once.2).2
    (∃ others seeded, once.1.entries = others ++ seeded ∧ seeded.length ≤ 2 ∧
      others.Sublist s.memory.entries ∧
      ∀ e ∈ s.memory.entries,
        e ∈ others ↔ ∀ d ∈ Builtin.workflows, ¬s.memory.Matches (.ofDefinition d) e) ∧
    once.1.entries.length ≤ s.memory.entries.length + 2 ∧
    (∀ e ∈ s.memory.entries, ∃ f ∈ once.1.entries,
      f.id = e.id ∧ f.key = e.key ∧ f.created? = e.created?) ∧
    twice.1.entries.map Stored.undated = once.1.entries.map Stored.undated ∧
    twice.1.list.map Stored.undated = once.1.list.map Stored.undated := by
  intro s once twice
  have sound : s.Sound := sound_replay supply changes
  have next := sound.storePair overview analysis
  have filed : once.1.entries = s.unmoved overview analysis ++ s.placed overview analysis :=
    sound.entries_storePair apart_builtin
  have again : twice.1.entries = s.unmoved overview analysis ++
      (s.storePair overview analysis).placed overview analysis := by
    rw [← sound.unmoved_storePair apart_builtin]
    exact next.entries_storePair apart_builtin
  have sublist : (s.unmoved overview analysis).Sublist s.memory.entries := List.filter_sublist
  have same : twice.1.entries.map Stored.undated = once.1.entries.map Stored.undated := by
    rw [again, filed, List.map_append, List.map_append, sound.undated_placed apart_builtin]
  have listed : once.1.list = once.1.entries.reverse := by
    have timely := timely_replay clock (changes ++ [.upsert overview, .upsert analysis])
    rw [← storePair_replay] at timely
    exact timely.list_eq
  have listedAgain : twice.1.list = twice.1.entries.reverse := by
    have timely := timely_replay clock
      (changes ++ [.upsert overview, .upsert analysis] ++ [.upsert overview, .upsert analysis])
    rw [← storePair_replay, ← storePair_replay] at timely
    exact timely.list_eq
  refine ⟨⟨_, _, filed, Shelf.length_placed_le s _ _, sublist, ?_⟩, ?_, ?_, same, ?_⟩
  · intro e member
    rw [sound.mem_unmoved_iff apart_builtin member]
    simp only [Builtin.workflows, List.forall_mem_cons, List.not_mem_nil, false_imp_iff, implies_true,
      and_true]
    rfl
  · rw [filed, List.length_append]
    exact Nat.add_le_add sublist.length_le (Shelf.length_placed_le s _ _)
  · intro e member
    obtain ⟨f, first, id, key, created⟩ := sound.exists_kept apart_builtin.left member
    obtain ⟨g, second, id', key', created'⟩ := (sound.change _).exists_kept apart_builtin.right first
    exact ⟨g, second, id'.trans id, key'.trans key, created'.trans created⟩
  · rw [listed, listedAgain, List.map_reverse, List.map_reverse, same]

/-- A workflow with the id of one built-in workflow and the key of the other, and one that neither matches. -/
def crossed : Shelf :=
  replay ticking [.upsert (titled "channel-overview" "competitor-analysis"), .upsert (titled "own" "own")]

/-- A workflow that both built-in workflows match is replaced by the one and then by the other, each time. -/
theorem seeds_of_replay_crossed :
    let once := (crossed.memory.seed crossed.supply).2
    let twice := (once.1.seed once.2).2
    ticking.Forward ∧ once.1.entries.map (fun e => (e.id, e.name)) =
      [("own", ""), ("channel-overview", "Competitor Analysis")] ∧
    twice.1.list.map Stored.undated = once.1.list.map Stored.undated := by
  intro once twice
  obtain ⟨-, -, -, -, same⟩ := seeds_of_replay ticking forward_ticking
    [.upsert (titled "channel-overview" "competitor-analysis"), .upsert (titled "own" "own")]
  exact ⟨forward_ticking, by decide, same⟩

end Memory

end Stepwise
