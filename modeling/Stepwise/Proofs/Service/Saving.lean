import Stepwise.Proofs.Repository.Memory
import Stepwise.Service.Handling

/-!
What requests act on that name a workflow by its id or by its key. Ids come before keys: a workflow that
has just been saved is found under its id, and under its key unless the key is the id of another one.
-/

namespace Stepwise

namespace Memory.Shelf

variable {s : Shelf} {w e : Stored}

theorem Sound.get?_id (sound : s.Sound) (member : e ∈ s.memory.entries) :
    s.memory.get? e.id = some e := by
  have found : s.memory.byId? e.id = some e := Lookup.find?_of_mem sound.ids member
  rw [get?, found, Option.some_or]

theorem Sound.get?_key_iff (sound : s.Sound) (member : e ∈ s.memory.entries) :
    s.memory.get? e.key = some e ↔ ∀ f ∈ s.memory.entries, f.id = e.key → f = e := by
  rw [get?]
  constructor
  · intro found f other same
    have first : s.memory.byId? e.key = some f := (Lookup.find?_eq_some_iff sound.ids).mpr ⟨other, same⟩
    rw [first, Option.some_or] at found
    exact Option.some.inj found
  · intro alone
    have filed : s.memory.byKey? e.key = some e := Lookup.find?_of_mem sound.keys member
    cases first : s.memory.byId? e.key with
    | none => rw [Option.none_or, filed]
    | some f =>
        obtain ⟨other, same⟩ := (Lookup.find?_eq_some_iff sound.ids).mp first
        rw [Option.some_or, alone f other same]

theorem mem_change_upsert (s : Shelf) (w : Stored) :
    (s.memory.upsert s.supply w).1 ∈ (s.change (.upsert w)).memory.entries :=
  List.mem_append_right _ (List.mem_singleton_self _)

end Memory.Shelf

namespace Service

open Memory (Change Shelf replay sound_replay titled ticking)

/-- The service with the workflows of a shelf. -/
def holding (service : Service) (s : Shelf) : Service :=
  { service with repository := s.memory, supply := s.supply }

@[simp]
theorem repository_holding (service : Service) (s : Shelf) :
    (service.holding s).repository = s.memory := rfl

/-- Requests that give the name act on the workflow: it is what they show, and what they run. -/
structure ActsOn (s : Service) (name : String) (w : Stored) : Prop where
  found : s.repository.get? name = some w
  shown : ∀ r, s.serve r (.workflow name) = pure (s.say w.toDocument)
  ordered : ∀ b inputs, b.read Body.inputsReader (.ok []) = .ok inputs →
    s.order name b = .ok (w, inputs)
  started : s.source w.id = .ok (some w.definition)

theorem actsOn_iff {service : Service} {s : Shelf} {name : String} {w : Stored} (sound : s.Sound)
    (member : w ∈ s.memory.entries) :
    (service.holding s).ActsOn name w ↔ s.memory.get? name = some w := by
  refine ⟨fun acts => acts.found, fun found => ?_⟩
  have required : (service.holding s).require name = .ok w := by
    rw [require, repository_holding, found]
  refine ⟨found, fun r => ?_, fun b inputs read => ?_, ?_⟩
  · rw [serve, required]
    rfl
  · rw [order, read, required]
    rfl
  · rw [source, repository_holding, sound.get?_id member]
    rfl

/-- After a workflow is saved, requests that give its id act on it. Those that give its key do so exactly
if the key is the id of no other workflow; if it is, they act on that other one. -/
theorem actsOn_of_save (service : Service) (supply : Supply) (changes : List Change) (w : Stored) :
    ∃ stored after, (service.holding (replay supply changes)).save w = (stored, after) ∧
      after.ActsOn stored.id stored ∧
      (after.ActsOn stored.key stored ↔ ∀ e ∈ after.repository.entries, e.id = stored.key → e = stored) ∧
      ∀ e ∈ after.repository.entries, e.id = stored.key → after.ActsOn stored.key e := by
  have sound := (sound_replay supply changes).change (.upsert w)
  have member := Memory.Shelf.mem_change_upsert (replay supply changes) w
  refine ⟨_, service.holding ((replay supply changes).change (.upsert w)), rfl, ?_, ?_, ?_⟩
  · exact (actsOn_iff sound member).mpr (sound.get?_id member)
  · exact (actsOn_iff sound member).trans (sound.get?_key_iff member)
  · intro e other same
    rw [← same]
    exact (actsOn_iff sound other).mpr (sound.get?_id other)

/-- A workflow that is stored under a key other than its id. -/
def shelved : Shelf := replay ticking [.upsert (titled "k" "x")]

/-- The key of the second workflow is the id of the first, which is what is found under it. -/
theorem crossed_is_not_found : ∃ stored m supply,
    shelved.memory.upsert shelved.supply (titled "y" "k") = (stored, m, supply) ∧
      stored.key = "k" ∧ (m.get? "k").map (·.id) = some "k" ∧ m.get? stored.key ≠ some stored := by
  have other : ((shelved.memory.upsert shelved.supply (titled "y" "k")).2.1.get? "k").map (·.id) = some "k" := by
    decide
  refine ⟨_, _, _, rfl, rfl, other, fun found => ?_⟩
  have same := congrArg (Option.map (·.id)) found
  exact absurd (other.symm.trans same) (by decide)

end Service

end Stepwise
