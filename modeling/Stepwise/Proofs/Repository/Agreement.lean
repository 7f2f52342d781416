import Stepwise.Proofs.Repository.Calls
import Stepwise.Proofs.Repository.Ranking

/-!
Repositories in memory and on a server side by side. A workflow that is stored on a server under a key
that is the id of another takes the place of that other one, which in memory it does not. Up to such a
call the answers are the same, and at it they differ.
-/

namespace Stepwise

namespace Supply

/-- The clock goes on from one moment to the next. -/
def Rises (supply : Supply) : Prop :=
  ∀ i j, i < j → (supply.moment i).instant < (supply.moment j).instant

/-- The first moments are less than `2 ^ 33` seconds away from the first of January 1970. -/
def EarlyTo (supply : Supply) (count : Nat) : Prop :=
  ∀ n < count, (supply.moment n).instant.natAbs < 1000000 * 2 ^ 33

end Supply

theorem Stored.lastStored_eq {w : Stored} {t : Moment} (updated : w.updated? = some t) :
    w.lastStored = t.instant := by
  rw [lastStored, updated]
  rfl

namespace Memory

/-- No workflow has the id, and the key is the id of one that has another key. -/
def Crosses (m : Memory) (w : Stored) : Prop :=
  (w.id ≠ "" → m.byId? w.id = none) ∧ ∃ e ∈ m.entries, e.id = w.key ∧ e.key ≠ w.key

variable {m : Memory} {w : Stored}

theorem claimed?_eq_existing? (keys : (m.entries.map Stored.key).Nodup) (straight : ¬m.Crosses w) :
    m.claimed? w = m.existing? w := by
  rw [claimed?, existing?]
  cases own : if w.id = "" then none else m.byId? w.id with
  | some e => rw [Option.some_or, Option.some_or]
  | none =>
      rw [Option.none_or, Option.none_or, get?]
      cases found : m.byId? w.key with
      | none => rw [Option.none_or]
      | some e =>
          have member := List.mem_of_find?_eq_some found
          have same : e.id = w.key := eq_of_beq (List.find?_some found :)
          have unowned : w.id ≠ "" → m.byId? w.id = none := fun named => by
            rwa [if_neg named] at own
          have filed : e.key = w.key := by
            by_contra other
            exact straight ⟨unowned, e, member, same, other⟩
          rw [Option.some_or, byKey?, ← filed, Lookup.find?_of_mem keys member]

/-- On a server another workflow is replaced than in memory. -/
theorem id_stamp_ne (ids : (m.entries.map Stored.id).Nodup) {supply : Supply}
    (fresh : w.id = "" → m.Fresh supply) (crosses : m.Crosses w) :
    (w.stamp supply (m.claimed? w)).1.id ≠ (w.stamp supply (m.existing? w)).1.id := by
  obtain ⟨unowned, e, member, same, other⟩ := crosses
  have own : (if w.id = "" then none else m.byId? w.id) = none := by
    split
    · rfl
    · exact unowned ‹_›
  have found : m.byId? w.key = some e := (Lookup.find?_eq_some_iff ids).mpr ⟨member, same⟩
  have absent {id : String} (missing : m.byId? id = none) : e.id ≠ id :=
    Lookup.ne_of_find?_eq_none missing e member
  rw [claimed?, existing?, own, Option.none_or, Option.none_or, get?, found, Option.some_or]
  cases filed : m.byKey? w.key with
  | some f =>
      intro equal
      have key : f.key = w.key := eq_of_beq (List.find?_some filed :)
      rw [List.inj_on_of_nodup_map ids member (List.mem_of_find?_eq_some filed) equal] at other
      exact other key
  | none =>
      simp only [Stored.stamp, Supply.nextMoment, Supply.idFor]
      split
      · exact absent (fresh ‹_›).2
      · exact absent (unowned ‹_›)

namespace Shelf

/-- Answers a call from memory. -/
def call (s : Shelf) : RepositoryCall → RepositoryAnswer × Shelf
  | .upsert w => (.stored (s.memory.upsert s.supply w).1, s.change (.upsert w))
  | .get name => (.found (s.memory.get? name), s)
  | .list => (.listed s.memory.list, s)
  | .delete id => (.deleted (s.memory.delete id).1, s.change (.delete id))

variable {s : Shelf}

theorem supply_call (s : Shelf) (c : RepositoryCall) : (s.call c).2.supply.moment = s.supply.moment ∧
    (s.call c).2.supply.momentsUsed ≤ s.supply.momentsUsed + 1 := by
  cases c with
  | upsert w =>
      obtain ⟨moment, used⟩ := Stored.supply_stamp s.supply w (s.memory.existing? w)
      exact ⟨moment, used.le⟩
  | get name => exact ⟨rfl, Nat.le_succ _⟩
  | list => exact ⟨rfl, Nat.le_succ _⟩
  | delete id => exact ⟨rfl, Nat.le_succ _⟩

/-! ### When the workflows were stored -/

/-- Each workflow has one of the moments that were handed out, and a later one than those before it. -/
structure Dated (s : Shelf) : Prop where
  each : ∀ e ∈ s.memory.entries, ∃ i < s.supply.momentsUsed, e.updated? = some (s.supply.moment i)
  rising : s.memory.entries.Pairwise fun a b => ∃ i j, i < j ∧ j < s.supply.momentsUsed ∧
    a.updated? = some (s.supply.moment i) ∧ b.updated? = some (s.supply.moment j)

theorem dated_empty (supply : Supply) : Dated { supply } where
  each _ absent := nomatch absent
  rising := List.Pairwise.nil

theorem Dated.change (dated : s.Dated) (c : Change) : (s.change c).Dated := by
  have kept (id : String) : (s.memory.erase id).entries.Sublist s.memory.entries := List.filter_sublist
  cases c with
  | delete id =>
      exact ⟨fun e member => dated.each e ((kept id).subset member), dated.rising.sublist (kept id)⟩
  | upsert w =>
      obtain ⟨moment, used⟩ := Stored.supply_stamp s.supply w (s.memory.existing? w)
      have last := Stored.updated?_stamp s.supply w (s.memory.existing? w)
      have filed : (s.change (.upsert w)).memory.entries =
        (s.memory.erase (s.memory.upsert s.supply w).1.id).entries ++
          [(w.stamp s.supply (s.memory.existing? w)).1] := rfl
      change (s.change (.upsert w)).supply.moment = _ at moment
      change (s.change (.upsert w)).supply.momentsUsed = _ at used
      constructor
      · rw [moment, used, filed, List.forall_mem_append, List.forall_mem_singleton]
        refine ⟨fun e member => ?_, _, Nat.lt_succ_self _, last⟩
        obtain ⟨i, past, updated⟩ := dated.each e ((kept _).subset member)
        exact ⟨i, Nat.lt_succ_of_lt past, updated⟩
      · rw [moment, used, filed, List.pairwise_append]
        refine ⟨(dated.rising.sublist (kept _)).imp ?_, List.pairwise_singleton _ _, ?_⟩
        · rintro a b ⟨i, j, before, past, dates⟩
          exact ⟨i, j, before, Nat.lt_succ_of_lt past, dates⟩
        · intro a old b new
          obtain ⟨i, past, updated⟩ := dated.each a ((kept _).subset old)
          rw [List.mem_singleton.mp new]
          exact ⟨i, _, past, Nat.lt_succ_self _, updated, last⟩

theorem Dated.timely (dated : s.Dated) (clock : s.supply.Rises) : s.Timely where
  rising := dated.rising.imp fun {a b} ⟨i, j, before, _, first, second⟩ => by
    rw [Stored.lastStored_eq first, Stored.lastStored_eq second]
    exact Int.le_of_lt (clock i j before)
  past := by
    intro e member n later
    obtain ⟨i, past, updated⟩ := dated.each e member
    rw [Stored.lastStored_eq updated]
    exact Int.le_of_lt (clock i n (Nat.lt_of_lt_of_le past later))

end Shelf

end Memory

namespace Documents

open RepositoryCall (answerAll answerAll_cons AtStores atStores_nil atStores_cons)

/-- The same workflows in memory and on a server, with the same supply. -/
structure Twins (s : Memory.Shelf) (a : Archive) : Prop where
  backed : a.Backed s.memory
  supply : a.supply = s.supply
  sound : s.Sound
  dated : s.Dated

namespace Twins

variable {s : Memory.Shelf} {a : Archive} {c : RepositoryCall} {w : Stored}

theorem empty (supply : Supply) : Twins { supply } { supply } where
  backed := Archive.backed_empty supply
  supply := rfl
  sound := Memory.Shelf.sound_empty supply
  dated := Memory.Shelf.dated_empty supply

section

variable (twins : Twins s a)
include twins

theorem scores_rising (clock : s.supply.Rises) (early : s.supply.EarlyTo s.supply.momentsUsed) :
    s.memory.entries.Pairwise fun a b => (scoreOf a).lt (scoreOf b) = true := by
  refine twins.dated.rising.imp ?_
  rintro a b ⟨i, j, before, past, first, second⟩
  rw [scoreOf, scoreOf, first, second]
  exact score_lt (early i (Nat.lt_trans before past)) (early j past) (clock i j before)

/-- Both list the workflows in the same order. -/
theorem listed_eq (clock : s.supply.Rises) (early : s.supply.EarlyTo s.supply.momentsUsed) :
    (a.session.server.ranking indexKey).filterMap s.memory.byId? = s.memory.list := by
  have mirrors := twins.backed.mirrors
  rw [(twins.dated.timely clock).list_eq, mirrors.ranking_eq (twins.scores_rising clock early),
    mirrors.filterMap_byId? fun w member => List.mem_reverse.mp member]

theorem call (clock : s.supply.Rises) (early : s.supply.EarlyTo s.supply.momentsUsed)
    (fresh : ∀ w, c = .upsert w → w.id = "" → s.memory.Fresh s.supply)
    (straight : ∀ w, c = .upsert w → ¬s.memory.Crosses w)
    (faithful : ∀ w, (s.call c).1 = .stored w → Faithful w) :
    (a.call c).1 = .ok (s.call c).1 ∧ Twins (s.call c).2 (a.call c).2 := by
  have ⟨backed, same, sound, dated⟩ := twins
  cases c with
  | upsert w =>
      -- Both replace the same workflow, so that both stamp the new one in the same way.
      have faithful : Faithful (w.stamp s.supply (s.memory.existing? w)).1 := faithful _ rfl
      have replaced := Memory.claimed?_eq_existing? sound.keys (straight w rfl)
      obtain ⟨text, written, -⟩ := id faithful
      rw [← same, ← replaced] at written faithful
      obtain ⟨next, answered, supply, kept⟩ := backed.exists_call_upsert
        (fun unnamed => by rw [same]; exact fresh w rfl unnamed) written
      have kept := kept faithful
      rw [same, replaced] at answered supply kept
      rw [answered]
      exact ⟨rfl, kept, supply, sound.change (.upsert w), dated.change (.upsert w)⟩
  | get name =>
      obtain ⟨next, answered, supply, kept⟩ := backed.exists_call_get name
      rw [answered]
      exact ⟨rfl, kept, supply.trans same, sound, dated⟩
  | list =>
      obtain ⟨next, answered, supply, kept⟩ := backed.exists_call_list
      rw [answered, twins.listed_eq clock early]
      exact ⟨rfl, kept, supply.trans same, sound, dated⟩
  | delete id =>
      obtain ⟨next, answered, supply, kept⟩ := backed.exists_call_delete id
      rw [answered]
      exact ⟨rfl, kept, supply.trans same, sound.change (.delete id), dated.change (.delete id)⟩

/-- Where the key is the id of another workflow the answers differ. -/
theorem call_ne (fresh : w.id = "" → s.memory.Fresh s.supply) (crosses : s.memory.Crosses w) :
    (a.call (.upsert w)).1 ≠ .ok (s.call (.upsert w)).1 := by
  have ⟨backed, same, sound, dated⟩ := twins
  have apart := Memory.id_stamp_ne sound.ids fresh crosses
  intro equal
  cases written : write (w.stamp a.supply (s.memory.claimed? w)).1 with
  | error f =>
      obtain ⟨next, answered, -⟩ := backed.exists_call_unwritten written
      rw [answered] at equal
      cases equal
  | ok text =>
      obtain ⟨next, answered, -⟩ := backed.exists_call_upsert (by rwa [same]) written
      rw [answered, same] at equal
      exact apart (congrArg Stored.id (RepositoryAnswer.stored.inj (Except.ok.inj equal)))

end

/-- Up to the first call that stores a workflow under the id of another the answers are the same. -/
theorem answers_eq_iff {calls : List RepositoryCall} (twins : Twins s a) (clock : s.supply.Rises)
    (early : s.supply.EarlyTo (s.supply.momentsUsed + calls.length))
    (fresh : AtStores Memory.Shelf.call s calls fun s w => w.id = "" → s.memory.Fresh s.supply)
    (faithful : ∀ w, .stored w ∈ (answerAll Memory.Shelf.call s calls).1 → Faithful w) :
    (answerAll Archive.call a calls).1 = (answerAll Memory.Shelf.call s calls).1.map .ok ↔
      AtStores Memory.Shelf.call s calls fun s w => ¬s.memory.Crosses w := by
  induction calls generalizing s a with
  | nil => exact iff_of_true rfl atStores_nil
  | cons c rest ih =>
      obtain ⟨freshNow, freshLater⟩ := atStores_cons.mp fresh
      have now : s.supply.EarlyTo s.supply.momentsUsed := fun n used => early n (by omega)
      -- The first answers are the same exactly if the call is straight, and then the twins stay twins.
      rw [atStores_cons, answerAll_cons, answerAll_cons, List.map_cons, List.cons.injEq]
      by_cases straight : ∀ w, c = .upsert w → ¬s.memory.Crosses w
      · obtain ⟨same, kept⟩ := twins.call clock now freshNow straight fun w stored =>
          faithful w (List.mem_cons.mpr (Or.inl stored.symm))
        obtain ⟨moment, used⟩ := s.supply_call c
        have tail := ih kept (by rwa [Supply.Rises, moment]) (fun n before => by
            rw [moment]
            rw [List.length_cons] at early
            exact early n (by omega))
          freshLater fun w member => faithful w (List.mem_cons_of_mem _ member)
        rw [tail]
        exact and_congr (iff_of_true same straight) Iff.rfl
      · refine iff_of_false ?_ fun both => straight both.1
        rintro ⟨same, -⟩
        refine straight ?_
        rintro w rfl crosses
        exact twins.call_ne (freshNow w rfl) crosses same

end Twins

/-- In memory and on a server that is empty at first all calls are answered in the same way exactly if none
stores a workflow that has no place of its own under a key that is the id of another workflow. It is taken
for granted that the clock goes on, that the ids that are handed out are fresh, and that what is stored is
read from its document as it was. -/
theorem answers_eq_iff_straight (supply : Supply) (calls : List RepositoryCall) (clock : supply.Rises)
    (early : supply.EarlyTo (supply.momentsUsed + calls.length))
    (fresh : AtStores Memory.Shelf.call { supply } calls fun s w =>
      w.id = "" → s.memory.Fresh s.supply)
    (faithful : ∀ w, .stored w ∈ (answerAll Memory.Shelf.call { supply } calls).1 → Faithful w) :
    (answerAll Archive.call { supply } calls).1 =
        (answerAll Memory.Shelf.call { supply } calls).1.map .ok ↔
      AtStores Memory.Shelf.call { supply } calls fun s w => ¬s.memory.Crosses w :=
  (Twins.empty supply).answers_eq_iff clock early fresh faithful

theorem instant_ticking (n : Nat) : (Memory.ticking.moment n).instant = n * 1000000 := by
  simp [Memory.ticking, Moment.instant]

theorem rises_ticking : Memory.ticking.Rises := by
  intro i j before
  rw [instant_ticking, instant_ticking]
  omega

theorem earlyTo_ticking {count : Nat} (few : count ≤ 1000) : Memory.ticking.EarlyTo count := by
  intro n before
  rw [instant_ticking]
  omega

/-- A workflow that is handed its id is stored again under its key, looked up and removed. -/
def renewing : List RepositoryCall :=
  [.upsert (Memory.titled "" "x"), .upsert (Memory.titled "b" "x"), .get "x", .list, .delete "0",
    .get "x"]

theorem answers_renewing : (answerAll Memory.Shelf.call { supply := Memory.ticking } renewing).1 =
    [.stored (claimed 0), .stored (claimed 1), .found (some (claimed 1)), .listed [claimed 1],
      .deleted true, .found none] := by
  have listed : ([claimed 1].mergeSort fun a b => decide (b.lastStored ≤ a.lastStored)) = [claimed 1] :=
    List.mergeSort_singleton _
  rw [← listed]
  rfl

theorem answers_eq_iff_straight_renewing :
    (answerAll Archive.call { supply := Memory.ticking } renewing).1 =
      [.ok (.stored (claimed 0)), .ok (.stored (claimed 1)), .ok (.found (some (claimed 1))),
        .ok (.listed [claimed 1]), .ok (.deleted true), .ok (.found none)] := by
  refine ((answers_eq_iff_straight Memory.ticking renewing rises_ticking
    (earlyTo_ticking (by decide)) ?_ ?_).mpr ?_).trans (congrArg (List.map Except.ok) answers_renewing)
  · simp only [renewing, atStores_cons, RepositoryCall.upsert.injEq, forall_eq', reduceCtorEq,
      IsEmpty.forall_iff, forall_const, true_and]
    exact ⟨fun _ => ⟨by decide, rfl⟩, fun unnamed => absurd unnamed (by decide), atStores_nil⟩
  · intro w stored
    obtain ⟨first, second⟩ := faithful_claimed
    rw [answers_renewing] at stored
    simp only [List.mem_cons, RepositoryAnswer.stored.injEq, reduceCtorEq, List.not_mem_nil, or_false]
      at stored
    obtain rfl | rfl := stored
    · exact first
    · exact second
  · simp only [renewing, atStores_cons, RepositoryCall.upsert.injEq, forall_eq', reduceCtorEq,
      IsEmpty.forall_iff, forall_const, true_and]
    refine ⟨?_, ?_, atStores_nil⟩
    · rintro ⟨-, e, member, -⟩
      cases member
    · rintro ⟨-, e, member, same, -⟩
      cases List.mem_singleton.mp member
      exact absurd same (by decide)

/-- What the second workflow becomes in memory. -/
def apart : Stored :=
  { Memory.titled "y" "0" with created? := some { seconds := 1 }, updated? := some { seconds := 1 } }

/-- Where the key of the second workflow is the id of the first, the server answers with the first in
place of the second. -/
theorem claiming_answers_differ : Memory.ticking.Rises ∧ Memory.ticking.EarlyTo 2 ∧
    (AtStores Memory.Shelf.call { supply := Memory.ticking } claiming fun s w =>
      w.id = "" → s.memory.Fresh s.supply) ∧
    (∀ w, .stored w ∈ (answerAll Memory.Shelf.call { supply := Memory.ticking } claiming).1 →
      Faithful w) ∧
    (answerAll Memory.Shelf.call { supply := Memory.ticking } claiming).1 =
      [.stored (claimed 0), .stored apart] ∧
    (answerAll Archive.call { supply := Memory.ticking } claiming).1 =
      [.ok (.stored (claimed 0)), .ok (.stored (claimed 1))] ∧
    (answerAll Archive.call { supply := Memory.ticking } claiming).1 ≠
      (answerAll Memory.Shelf.call { supply := Memory.ticking } claiming).1.map .ok := by
  refine ⟨rises_ticking, earlyTo_ticking (by decide), ?_, ?_, rfl, answers_claiming, ?_⟩
  · simp only [claiming, atStores_cons, RepositoryCall.upsert.injEq, forall_eq']
    exact ⟨fun _ => ⟨by decide, rfl⟩, fun unnamed => absurd unnamed (by decide), atStores_nil⟩
  · intro w stored
    change _ ∈ [RepositoryAnswer.stored (claimed 0), .stored apart] at stored
    simp only [List.mem_cons, RepositoryAnswer.stored.injEq, List.not_mem_nil, or_false] at stored
    obtain rfl | rfl := stored
    · exact faithful_claimed.1
    · exact faithful_of_rereads (by decide +kernel)
  · rw [answers_claiming]
    intro same
    have ids : (claimed 1).id = apart.id :=
      congrArg Stored.id (RepositoryAnswer.stored.inj (Except.ok.inj (List.cons.inj
        (List.cons.inj same).2).1))
    exact absurd ids (by decide)

end Documents

end Stepwise
