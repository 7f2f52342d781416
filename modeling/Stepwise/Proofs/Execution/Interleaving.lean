import Stepwise.Proofs.Execution.Closing
import Stepwise.Proofs.Execution.Registry

/-!
Runs that come and go in one history. Each is stored when it starts and recorded when it ends, and what
other runs do in between does not show on it.
-/

namespace Stepwise.Engine

/-- What can be recorded when the run of an order ends. -/
inductive Terminal (order : Order) : RunUpdate → Prop
  | refused (e : StartError) :
      Terminal order (failure order.ended RunError.wholeWorkflow e.message e.stack?)
  | closed (ending : Ending) : Terminal order (closing order.ended ending)

/-- Records how the run of an order has ended. The run itself is given back, whether the history has it
or not. -/
def record (h : History) (order : Order) (u : RunUpdate) : Run × History :=
  ((opened order).update u, h.update order.id u)

/-- What happens to a run. -/
inductive Event where
  | start (order : Order)
  | finish (order : Order) (update : RunUpdate)

namespace Event

def act : Event → History.Act
  | start o => .store (opened o)
  | finish o u => .update o.id u

def starts? : Event → Option Order
  | start o => some o
  | finish _ _ => none

/-- What an event records under an id. -/
def records? (id : String) : Event → Option RunUpdate
  | start _ => none
  | finish o u => if o.id = id then some u else none

end Event

/-- The orders whose runs have started, the latest first. -/
def started (events : List Event) : List Order := (events.filterMap Event.starts?).reverse

def outcome? (events : List Event) (id : String) : Option RunUpdate :=
  events.findSome? (Event.records? id)

/-- The run of an order as it has come to be. -/
def shown (events : List Event) (o : Order) : Run :=
  match outcome? events o.id with
  | some u => (opened o).update u
  | none => opened o

/-- An event that can follow others: a run starts under an id of its own, and ends once, after it has
started. -/
def Event.Follows (before : List Event) : Event → Prop
  | start o => ∀ other ∈ started before, other.id ≠ o.id
  | finish o u => o ∈ started before ∧ (∀ earlier, finish o earlier ∉ before) ∧ Terminal o u

/-- The events of runs in an order in which they can come. -/
def Interleaved (events : List Event) : Prop :=
  ∀ pre e post, events = pre ++ e :: post → e.Follows pre

variable {events before : List Event} {e : Event} {o other : Order} {u : RunUpdate} {id : String}

/-! ### Events that follow others -/

theorem interleaved_snoc : Interleaved (before ++ [e]) ↔ Interleaved before ∧ e.Follows before := by
  constructor
  · intro whole
    refine ⟨?_, whole before e [] rfl⟩
    rintro pre f post rfl
    exact whole pre f (post ++ [e]) (by rw [List.append_assoc, List.cons_append])
  · rintro ⟨earlier, last⟩ pre f post split
    rcases List.eq_nil_or_concat post with rfl | ⟨post, g, rfl⟩
    · obtain ⟨rfl, same⟩ := List.append_inj' split rfl
      cases same
      exact last
    · rw [List.concat_eq_append, ← List.cons_append, ← List.append_assoc] at split
      exact earlier pre f post (List.append_inj' split rfl).1

theorem started_start : started (before ++ [.start o]) = o :: started before := by
  rw [started, List.filterMap_append, List.reverse_append]
  rfl

theorem started_finish : started (before ++ [.finish o u]) = started before := by
  rw [started, List.filterMap_append, List.reverse_append]
  rfl

theorem outcome?_snoc : outcome? (before ++ [e]) id = (outcome? before id).or (e.records? id) := by
  rw [outcome?, List.findSome?_append, outcome?, List.findSome?_singleton]

theorem logged_acts (events : List Event) :
    History.logged (events.map Event.act) = (started events).map (·.id) := by
  induction events using List.reverseRecOn with
  | nil => rfl
  | append_singleton before e ih =>
      rw [List.map_append, List.map_singleton, History.logged_snoc, ih]
      cases e with
      | start o =>
          rw [started_start]
          rfl
      | finish o u =>
          rw [started_finish]
          rfl

theorem distinct_started (interleaved : Interleaved events) :
    ((started events).map (·.id)).Nodup := by
  induction events using List.reverseRecOn with
  | nil => exact List.nodup_nil
  | append_singleton before e ih =>
      obtain ⟨earlier, follows⟩ := interleaved_snoc.mp interleaved
      cases e with
      | start o =>
          rw [started_start, List.map_cons, List.nodup_cons]
          refine ⟨?_, ih earlier⟩
          intro taken
          obtain ⟨other, member, same⟩ := List.mem_map.mp taken
          exact follows other member same
      | finish o u =>
          rw [started_finish]
          exact ih earlier

theorem nodup_logged (interleaved : Interleaved events) :
    (History.logged (events.map Event.act)).Nodup := by
  rw [logged_acts]
  exact distinct_started interleaved

theorem eq_of_started (interleaved : Interleaved events) (here : o ∈ started events)
    (there : other ∈ started events) (same : o.id = other.id) : o = other :=
  List.inj_on_of_nodup_map (distinct_started interleaved) here there same

theorem exists_finish_of_outcome? (interleaved : Interleaved events)
    (ended : outcome? events id = some u) :
    ∃ o ∈ started events, o.id = id ∧ .finish o u ∈ events := by
  induction events using List.reverseRecOn with
  | nil => cases ended
  | append_singleton before e ih =>
      obtain ⟨earlier, follows⟩ := interleaved_snoc.mp interleaved
      rw [outcome?_snoc] at ended
      cases e with
      | start p =>
          rw [Event.records?, Option.or_none] at ended
          obtain ⟨o, member, same, recorded⟩ := ih earlier ended
          rw [started_start]
          exact ⟨o, List.mem_cons_of_mem p member, same, List.mem_append_left _ recorded⟩
      | finish p v =>
          rw [started_finish]
          rcases Option.or_eq_some_iff.mp ended with old | ⟨-, new⟩
          · obtain ⟨o, member, same, recorded⟩ := ih earlier old
            exact ⟨o, member, same, List.mem_append_left _ recorded⟩
          · rw [Event.records?] at new
            split at new
            · cases new
              exact ⟨p, follows.1, ‹_›, List.mem_append_right _ (List.mem_singleton_self _)⟩
            · cases new

theorem eq_of_finish {v : RunUpdate} (interleaved : Interleaved events)
    (one : .finish o u ∈ events) (two : .finish o v ∈ events) : u = v := by
  induction events using List.reverseRecOn with
  | nil => cases one
  | append_singleton before e ih =>
      obtain ⟨earlier, follows⟩ := interleaved_snoc.mp interleaved
      rcases List.mem_append.mp one with old | new <;> rcases List.mem_append.mp two with old' | new'
      · exact ih earlier old old'
      · cases List.mem_singleton.mp new'
        exact absurd old (follows.2.1 u)
      · cases List.mem_singleton.mp new
        exact absurd old' (follows.2.1 v)
      · cases List.mem_singleton.mp new
        cases List.mem_singleton.mp new'
        rfl

theorem terminal_of_finish (interleaved : Interleaved events) (recorded : .finish o u ∈ events) :
    Terminal o u := by
  obtain ⟨pre, post, split⟩ := List.append_of_mem recorded
  exact (interleaved pre _ post split).2.2

theorem outcome?_eq_some_iff (interleaved : Interleaved events) (member : o ∈ started events) :
    outcome? events o.id = some u ↔ .finish o u ∈ events := by
  have recorded {v : RunUpdate} (ended : outcome? events o.id = some v) : .finish o v ∈ events := by
    obtain ⟨other, there, same, made⟩ := exists_finish_of_outcome? interleaved ended
    rwa [← eq_of_started interleaved there member same]
  refine ⟨recorded, fun made => ?_⟩
  cases ended : outcome? events o.id with
  | none =>
      have missed := List.findSome?_eq_none_iff.mp ended _ made
      exact absurd missed (by simp [Event.records?])
  | some v => rw [eq_of_finish interleaved made (recorded ended)]

theorem shown_of_finish (interleaved : Interleaved events) (member : o ∈ started events)
    (recorded : .finish o u ∈ events) : shown events o = (opened o).update u := by
  rw [shown, (outcome?_eq_some_iff interleaved member).mpr recorded]

theorem shown_of_open (interleaved : Interleaved events) (member : o ∈ started events)
    (unfinished : ∀ u, .finish o u ∉ events) : shown events o = opened o := by
  rw [shown]
  cases ended : outcome? events o.id with
  | none => rfl
  | some u => exact absurd ((outcome?_eq_some_iff interleaved member).mp ended) (unfinished u)

theorem status_shown (interleaved : Interleaved events) (member : o ∈ started events) :
    (shown events o).status = .running ↔ outcome? events o.id = none := by
  cases ended : outcome? events o.id with
  | none => simp [shown, ended, opened]
  | some u =>
      have terminal := terminal_of_finish interleaved
        ((outcome?_eq_some_iff interleaved member).mp ended)
      have closed : ((opened o).update u).status ≠ .running := by
        cases terminal with
        | refused e => exact RunStatus.noConfusion
        | closed ending => cases ending <;> exact RunStatus.noConfusion
      simpa [shown, ended] using closed

/-- What was last stored under the id of a run is the run as it has come to be. -/
theorem last?_acts (interleaved : Interleaved events) (member : o ∈ started events) :
    History.last? (events.map Event.act) o.id = some (shown events o) := by
  induction events using List.reverseRecOn generalizing o with
  | nil => cases member
  | append_singleton before e ih =>
      obtain ⟨earlier, follows⟩ := interleaved_snoc.mp interleaved
      rw [List.map_append, List.map_singleton, History.last?_snoc]
      cases e with
      | start p =>
          have same : shown (before ++ [.start p]) o = shown before o := by
            rw [shown, shown, outcome?_snoc, Event.records?, Option.or_none]
          rw [same]
          rw [started_start] at member
          rcases List.mem_cons.mp member with rfl | old
          -- Ends are recorded for started runs only, and no started run has the new id.
          · have unstarted : outcome? before o.id = none := by
              cases ended : outcome? before o.id with
              | none => rfl
              | some u =>
                  obtain ⟨other, there, taken, -⟩ := exists_finish_of_outcome? earlier ended
                  exact absurd taken (follows other there)
            rw [shown, unstarted]
            exact if_pos rfl
          · exact (if_neg (follows o old).symm).trans (ih earlier old)
      | finish p u =>
          rw [started_finish] at member
          rw [ih earlier member]
          by_cases here : p.id = o.id
          · obtain rfl := eq_of_started earlier follows.1 member here
            have ended : Event.finish p u ∈ before ++ [.finish p u] :=
              List.mem_append_right _ (List.mem_singleton_self _)
            rw [shown_of_open earlier member follows.2.1,
              shown_of_finish interleaved (by rwa [started_finish]) ended]
            exact if_pos rfl
          · have same : shown (before ++ [.finish p u]) o = shown before o := by
              rw [shown, shown, outcome?_snoc, Event.records?, if_neg here, Option.or_none]
            rw [same]
            exact if_neg here

/-! ### What the history shows -/

def latest (room : Nat) (events : List Event) : List Order := (started events).take room

theorem started_of_latest {room : Nat} (member : o ∈ latest room events) : o ∈ started events :=
  List.mem_of_mem_take member

theorem id_shown (events : List Event) (o : Order) : (shown events o).id = o.id := by
  rw [shown]
  split <;> rfl

/-- A run with all that has been recorded for it. -/
structure Carries (r : Run) (o : Order) (u : RunUpdate) : Prop where
  id : r.id = o.id
  workflow : r.workflow = o.workflow
  started : r.started = o.started
  status : u.status? = some r.status
  final : r.status ≠ .running
  ended : r.ended? = some o.ended
  results : r.results = u.results?.getD []
  errors : r.errors = u.errors?.getD []

theorem carries_record (h : History) (terminal : Terminal o u) :
    Carries (record h o u).1 o u := by
  cases terminal with
  | refused e => exact ⟨rfl, rfl, rfl, rfl, RunStatus.noConfusion, rfl, rfl, rfl⟩
  | closed ending =>
      cases ending <;> exact ⟨rfl, rfl, rfl, rfl, RunStatus.noConfusion, rfl, rfl, rfl⟩

/-- What a history with room for some runs shows after some events. -/
structure Shows (h : History) (room : Nat) (events : List Event) : Prop where
  recent : h.recent = (latest room events).map (shown events)
  size : h.size = min room (started events).length
  pages : ∀ limit : Int, h.size ≤ limit → h.page limit = h.recent
  found : ∀ id r, h.get? id = some r ↔ ∃ o ∈ latest room events, o.id = id ∧ r = shown events o
  outcomes : ∀ o ∈ started events, ∀ u, outcome? events o.id = some u ↔ .finish o u ∈ events
  running : ∀ o ∈ started events, (shown events o).status = .running ↔ outcome? events o.id = none
  active : h.active =
    ((latest room events).filter fun o => (outcome? events o.id).isNone).map opened
  total : h.stats.total = h.size
  counts : h.stats.completed + h.stats.failed + h.stats.running + h.stats.cancelled = h.size
  runningCount : h.stats.running = h.active.length
  records : ∀ o u, (Event.finish o u).Follows events → Carries (record h o u).1 o u ∧
    (o ∈ latest room events → (record h o u).2.get? o.id = some (record h o u).1) ∧
    (o ∉ latest room events → (record h o u).2 = h)

section Replay

variable {start : History} (empty : start.Accounts []) (unregistered : start.registered = [])
  (interleaved : Interleaved events)
include empty unregistered interleaved

theorem recent_replay : (start.replay (events.map Event.act)).recent =
    (latest start.capacity events).map (shown events) := by
  have listed := History.map_some_recent empty (nodup_logged interleaved) unregistered
  rw [logged_acts, ← List.map_take, List.map_map] at listed
  refine List.map_injective_iff.mpr (fun _ _ => Option.some.inj) (listed.trans ?_)
  rw [List.map_map]
  exact List.map_congr_left fun o member => last?_acts interleaved (started_of_latest member)

theorem get?_replay (id : String) (r : Run) :
    (start.replay (events.map Event.act)).get? id = some r ↔
      ∃ o ∈ latest start.capacity events, o.id = id ∧ r = shown events o := by
  have recent := recent_replay empty unregistered interleaved
  constructor
  · intro found
    have first := (History.get?_eq_some.mp found).2
    have member := List.mem_of_find?_eq_some first
    rw [recent] at member
    obtain ⟨o, here, rfl⟩ := List.mem_map.mp member
    exact ⟨o, here, (id_shown events o).symm.trans (eq_of_beq (List.find?_some first :)), rfl⟩
  · rintro ⟨o, here, rfl, rfl⟩
    rw [← id_shown events o]
    refine History.get?_of_mem_recent empty (nodup_logged interleaved) ?_
    rw [recent]
    exact List.mem_map.mpr ⟨o, here, rfl⟩

theorem active_replay : (start.replay (events.map Event.act)).active =
    ((latest start.capacity events).filter fun o => (outcome? events o.id).isNone).map opened := by
  rw [History.active, recent_replay empty unregistered interleaved, List.filter_map]
  have same (o : Order) (member : o ∈ latest start.capacity events) :
      ((shown events o).status == .running) = (outcome? events o.id).isNone := by
    rw [Bool.eq_iff_iff, beq_iff_eq, Option.isNone_iff_eq_none]
    exact status_shown interleaved (started_of_latest member)
  rw [List.filter_congr (q := fun o => (outcome? events o.id).isNone) same]
  refine List.map_congr_left fun o member => ?_
  have unfinished := Option.isNone_iff_eq_none.mp (List.mem_filter.mp member).2
  rw [shown, unfinished]

theorem shows_replay :
    Shows (start.replay (events.map Event.act)) start.capacity events where
  recent := recent_replay empty unregistered interleaved
  size := by
    rw [History.size, recent_replay empty unregistered interleaved, List.length_map, latest,
      List.length_take]
  pages := fun limit large => History.page_of_size_le large
  found := get?_replay empty unregistered interleaved
  outcomes := fun o member u => outcome?_eq_some_iff interleaved member
  running := fun o member => status_shown interleaved member
  active := active_replay empty unregistered interleaved
  total := rfl
  counts := History.countP_status _
  runningCount := List.countP_eq_length_filter
  records := by
    rintro o u ⟨member, unfinished, terminal⟩
    have found := get?_replay empty unregistered interleaved
    refine ⟨carries_record _ terminal, fun here => ?_, fun gone => ?_⟩
    · have present := (found o.id _).mpr ⟨o, here, rfl, rfl⟩
      rw [shown_of_open interleaved member unfinished] at present
      show History.get? (History.update _ _ _) _ = _
      rw [History.get?_update_self, present]
      rfl
    · refine History.update_of_get?_eq_none (History.accounts_replay empty _) ?_
      cases present : (start.replay (events.map Event.act)).get? o.id with
      | none => rfl
      | some r =>
          obtain ⟨other, here, same, -⟩ := (found o.id r).mp present
          have equal := eq_of_started interleaved (started_of_latest here) member same
          exact absurd (equal ▸ here) gone

end Replay

/-! ### Runs of the engine -/

theorem terminal_of_outcome {w : World} {source : Source}
    (ended : (outcome w source o).value = .ok u) : Terminal o u := by
  rw [outcome_value] at ended
  cases prepared : prepare w source o.workflow with
  | error e =>
      simp only [outcomeBy, prepared, pure] at ended
      cases ended
      exact .refused e
  | ok pair =>
      cases given : inputsOf o.inputs with
      | error f =>
          simp only [outcomeBy, prepared, given, pure] at ended
          cases ended
      | ok inputs =>
          rw [outcomeBy_noting (attempts w) prepared given] at ended
          cases ran : (Levels.run (Levels.noting (attempts w)) { inputs, run := o.id }
              (pair.2.stepsByLevel pair.1)).value with
          | error f =>
              rw [ran] at ended
              cases ended
          | ok ending =>
              rw [ran] at ended
              cases ended
              exact .closed ending

/-- The engine stores a run and records one end of it, if no fault prevents the end. -/
theorem run_records (w : World) (source : Source) (h : History) (order : Order) :
    (∃ f, (run w source h order).value = (.error f, (Event.start order).act.apply h)) ∨
      ∃ u, Terminal order u ∧ (run w source h order).value =
        (.ok (record ((Event.start order).act.apply h) order u).1,
          (record ((Event.start order).act.apply h) order u).2) := by
  rw [← runAmid_nil]
  cases ended : (outcome w source order).value with
  | error f => exact Or.inl ⟨f, runAmid_of_error ended⟩
  | ok u => exact Or.inr ⟨u, terminal_of_outcome ended, runAmid_of_ok ended⟩

/-- Whatever runs come and go in a history, in whatever order their starts and ends come, it lists the
runs that have started last, as many as there is room for, each as it has come to be by itself: as it was
opened until its end is recorded, and as recorded from then on. It finds the runs that it lists and no
others, and counts each. The end of a run that has left changes nothing, and the run that is given back
carries its end nevertheless. -/
theorem shows_of_interleaved (bound : Int) (positive : 1 ≤ bound) :
    (∃ start, History.empty bound = .ok start ∧ ∀ events, Interleaved events →
      Shows (start.replay (events.map Event.act)) bound.toNat events) ∧
    ∀ w source h order,
      (∃ f, (run w source h order).value = (.error f, (Event.start order).act.apply h)) ∨
      ∃ u, Terminal order u ∧ (run w source h order).value =
        (.ok (record ((Event.start order).act.apply h) order u).1,
          (record ((Event.start order).act.apply h) order u).2) := by
  refine ⟨?_, run_records⟩
  obtain ⟨start, made⟩ : ∃ start, History.empty bound = .ok start := ⟨_, dif_pos positive⟩
  obtain ⟨accounts, unregistered, room⟩ := History.accounts_empty made
  refine ⟨start, made, fun events interleaved => ?_⟩
  rw [← room]
  exact shows_replay accounts unregistered interleaved

/-- Two runs of which the first ends when the second has taken its place. -/
def overlapping : List Event :=
  [.start bare, .start { bare with id := "next" }]

theorem interleaved_overlapping : Interleaved overlapping := by
  have none : Interleaved [] := fun pre e post split => absurd split (by simp)
  have first : Event.Follows [] (.start bare) := fun other absent => absurd absent List.not_mem_nil
  have second : Event.Follows [.start bare] (.start { bare with id := "next" }) := by
    intro other member
    obtain rfl := List.mem_singleton.mp member
    decide
  exact interleaved_snoc.mpr ⟨interleaved_snoc.mpr ⟨none, first⟩, second⟩

theorem shows_overlapping : ∃ start, History.empty 1 = .ok start ∧
    (start.replay (overlapping.map Event.act)).recent = [opened { bare with id := "next" }] ∧
    record (start.replay (overlapping.map Event.act)) bare (closing bare.ended (.completed [])) =
      ((opened bare).update (closing bare.ended (.completed [])),
        start.replay (overlapping.map Event.act)) := by
  obtain ⟨⟨start, made, shows⟩, -⟩ := shows_of_interleaved 1 (Int.le_refl 1)
  have told := shows overlapping interleaved_overlapping
  have follows : (Event.finish bare (closing bare.ended (.completed []))).Follows overlapping := by
    refine ⟨by simp [overlapping, started, Event.starts?], ?_, .closed _⟩
    simp [overlapping]
  obtain ⟨-, -, gone⟩ := told.records bare _ follows
  refine ⟨start, made, told.recent, Prod.ext rfl (gone ?_)⟩
  intro listed
  obtain same := List.mem_singleton.mp listed
  exact absurd (congrArg Order.id same) (by decide)

end Stepwise.Engine
