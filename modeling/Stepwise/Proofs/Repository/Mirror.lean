import Stepwise.Proofs.Repository.Memory
import Stepwise.Proofs.Repository.Session
import Stepwise.Proofs.Repository.Table

/-!
A server that holds just the workflows of a memory: a document of each, the ids under the keys, and the
ids with the scores. Looking something up on such a server finds what the memory has, and after storing
and removing the server holds again what the memory does.
-/

namespace Stepwise

/-- The id that is handed out next. -/
def Supply.nextId (supply : Supply) : String := supply.id supply.idsUsed

namespace Memory

/-- The id that is handed out next is not empty, and no workflow has it. -/
def Fresh (m : Memory) (supply : Supply) : Prop :=
  supply.nextId ≠ "" ∧ m.byId? supply.nextId = none

/-- The workflow that storing on a server replaces: the one of the id, or else the one that the key
finds. Unlike in memory the key may find a workflow by its id. -/
def claimed? (m : Memory) (w : Stored) : Option Stored :=
  (if w.id = "" then none else m.byId? w.id).or (m.get? w.key)

/-- Whatever has the id of the workflow has its key, and the other way round. -/
def Fits (m : Memory) (w : Stored) : Prop := ∀ e ∈ m.entries, e.id = w.id ↔ e.key = w.key

theorem Fits.filter_key {m : Memory} {w : Stored} (fits : m.Fits w) :
    m.entries.filter (·.key != w.key) = m.entries.filter (·.id != w.id) :=
  List.filter_congr fun e member => by
    rw [Bool.eq_iff_iff, bne_iff_ne, bne_iff_ne, ne_eq, ne_eq, fits e member]

end Memory

namespace Documents

/-- The text of the document of a workflow. -/
def textOf (w : Stored) : String := (write w).toOption.getD ""

/-- The score of a workflow in the order of the latest storing. -/
def scoreOf (w : Stored) : Binary64 := (w.updated?.map score).getD .zero

/-- The workflow has a document, and is what is read from it. -/
def Faithful (w : Stored) : Prop := ∃ text, write w = .ok text ∧ read text = .ok w

/-- The sorted set of the ids, with the scores. -/
def index (server : Server) : Table Binary64 := (server.rankings.get? indexKey).getD []

/-- The server holds the workflows of the memory and no others. -/
structure Mirrors (server : Server) (m : Memory) : Prop where
  texts : server.texts.Files (fun w => documentKey w.id) textOf m.entries
  keys : ((server.hashes.get? keysKey).getD []).Files Stored.key Stored.id m.entries
  index : (index server).Files Stored.id scoreOf m.entries
  ids : (m.entries.map Stored.id).Nodup
  distinct : (m.entries.map Stored.key).Nodup
  named : ∀ w ∈ m.entries, w.id ≠ ""
  faithful : ∀ w ∈ m.entries, Faithful w

/-- What is sent to file a workflow. -/
def filing (w : Stored) : List Command :=
  [.set (documentKey w.id) (textOf w), .hashSet keysKey w.key w.id, .rank indexKey w.id (scoreOf w)]

/-- What is sent to remove a workflow. -/
def removing (w : Stored) : List Command :=
  [.delete (documentKey w.id), .hashDelete keysKey w.key, .unrank indexKey w.id]

variable {server : Server} {m : Memory} {w e : Stored} {id name text : String}

theorem documentKey_inj : documentKey id = documentKey name ↔ id = name := String.append_right_inj _

theorem textOf_eq (written : write w = .ok text) : textOf w = text := by
  rw [textOf, written]
  rfl

theorem read_ne_ok_empty : read "" ≠ .ok w := by
  intro done
  cases done

theorem present?_eq_some (filled : text ≠ "") : present? (some text) = some text := by
  unfold present?
  split
  · exact absurd (Option.some.inj ‹_›) filled
  · rfl

theorem mirrors_empty : Mirrors {} {} where
  texts := Table.files_nil
  keys := Table.files_nil
  index := Table.files_nil
  ids := List.nodup_nil
  distinct := List.nodup_nil
  named _ absent := nomatch absent
  faithful _ absent := nomatch absent

theorem filter_documentKey (entries : List Stored) (id : String) :
    entries.filter (fun e => documentKey e.id != documentKey id) = entries.filter (·.id != id) :=
  List.filter_congr fun e _ => by
    rw [Bool.eq_iff_iff, bne_iff_ne, bne_iff_ne, ne_eq, ne_eq, documentKey_inj]

theorem hashText?_keysKey (server : Server) (key : String) :
    server.hashText? keysKey key = ((server.hashes.get? keysKey).getD []).get? key := by
  rw [Server.hashText?]
  cases server.hashes.get? keysKey <;> rfl

namespace Mirrors

/-! ### Looking up -/

variable (mirrors : Mirrors server m)
include mirrors

theorem texts_distinct : (m.entries.map fun w => documentKey w.id).Nodup := by
  have mapped := mirrors.ids.map fun _ _ same => documentKey_inj.mp same
  rwa [List.map_map] at mapped

theorem text?_eq (id : String) : server.text? (documentKey id) = (m.byId? id).map textOf := by
  have same (w : Stored) : (documentKey w.id == documentKey id) = (w.id == id) := by
    rw [Bool.eq_iff_iff, beq_iff_eq, beq_iff_eq, documentKey_inj]
  rw [Server.text?, mirrors.texts.get?_eq mirrors.texts_distinct, Memory.byId?]
  simp only [same]

theorem hashText?_eq (key : String) :
    server.hashText? keysKey key = (m.byKey? key).map Stored.id := by
  rw [hashText?_keysKey, mirrors.keys.get?_eq mirrors.distinct, Memory.byKey?]

theorem gives_byId? (id : String) : (byId? id).Gives server (m.byId? id) server := by
  refine (Client.gives_text? (documentKey id) server).bind ?_
  rw [mirrors.text?_eq]
  cases found : m.byId? id with
  | none => exact Client.gives_pure none server
  | some w =>
      obtain ⟨text, written, loaded⟩ := mirrors.faithful w (List.mem_of_find?_eq_some found)
      have filled : text ≠ "" := by
        rintro rfl
        exact read_ne_ok_empty loaded
      rw [Option.map_some, textOf_eq written, present?_eq_some filled]
      exact (Client.gives_checked loaded server).bind (Client.gives_pure (some w) server)

theorem gives_get? (name : String) : (get? name).Gives server (m.get? name) server := by
  refine (mirrors.gives_byId? name).bind ?_
  rw [Memory.get?]
  cases m.byId? name with
  | some w => exact Client.gives_pure (some w) server
  | none =>
      -- The hash leads from the key to the id, under which the document is.
      refine (Client.gives_hashText? keysKey name server).bind ?_
      rw [mirrors.hashText?_eq, Option.none_or]
      cases found : m.byKey? name with
      | none => exact Client.gives_pure none server
      | some w =>
          have member := List.mem_of_find?_eq_some found
          have filed : m.byId? w.id = some w := Lookup.find?_of_mem mirrors.ids member
          rw [Option.map_some, present?_eq_some (mirrors.named w member)]
          have there := mirrors.gives_byId? w.id
          rwa [filed] at there

theorem gives_existing? (w : Stored) : (existing? w).Gives server (m.claimed? w) server := by
  rw [existing?, Memory.claimed?]
  by_cases unnamed : w.id = ""
  · rw [if_pos unnamed, if_pos unnamed, Option.none_or]
    exact (Client.gives_pure none server).bind (mirrors.gives_get? w.key)
  · rw [if_neg unnamed, if_neg unnamed]
    have looked := mirrors.gives_byId? w.id
    cases found : m.byId? w.id with
    | some e =>
        rw [found] at looked
        rw [Option.some_or]
        exact looked.bind (Client.gives_pure (some e) server)
    | none =>
        rw [found] at looked
        rw [Option.none_or]
        exact looked.bind (mirrors.gives_get? w.key)

theorem gives_all (ids : List String) : (all ids).Gives server (ids.filterMap m.byId?) server := by
  induction ids with
  | nil => exact Client.gives_pure [] server
  | cons id rest ih =>
      refine (mirrors.gives_byId? id).bind (ih.bind ?_)
      cases found : m.byId? id with
      | none =>
          rw [List.filterMap_cons_none found]
          exact Client.gives_pure _ server
      | some w =>
          rw [List.filterMap_cons_some found]
          exact Client.gives_pure _ server

theorem filterMap_byId? {ws : List Stored} (members : ∀ w ∈ ws, w ∈ m.entries) :
    (ws.map Stored.id).filterMap m.byId? = ws := by
  have found : ∀ w ∈ ws, (m.byId? ∘ Stored.id) w = some w :=
    fun w member => Lookup.find?_of_mem mirrors.ids (members w member)
  rw [List.filterMap_map, List.filterMap_congr found, List.filterMap_some]

/-- Listing gives the workflows in the order of the sorted set. -/
theorem gives_list :
    list.Gives server ((server.ranking indexKey).filterMap m.byId?) server :=
  (Client.gives_ranking indexKey server).bind (mirrors.gives_all _)

theorem ranking_perm : ((server.ranking indexKey).filterMap m.byId?).Perm m.entries := by
  have ranked : (server.ranking indexKey).Perm (m.entries.map Stored.id) :=
    ((List.mergeSort_perm _ _).map _).trans mirrors.index.names
  have listed := ranked.filterMap m.byId?
  rwa [mirrors.filterMap_byId? fun _ member => member] at listed

/-! ### Storing and removing -/

theorem erased (unwanted : String) : (∀ e ∈ (m.erase unwanted).entries, e ∈ m.entries) ∧
    ((m.erase unwanted).entries.map Stored.id).Nodup ∧
    ((m.erase unwanted).entries.map Stored.key).Nodup := by
  have kept : (m.erase unwanted).entries.Sublist m.entries := List.filter_sublist
  exact ⟨fun e member => kept.subset member, mirrors.ids.sublist (kept.map _),
    mirrors.distinct.sublist (kept.map _)⟩

theorem fits_of_mem (member : e ∈ m.entries) : Memory.Fits m e := fun f other =>
  ⟨fun same => by rw [List.inj_on_of_nodup_map mirrors.ids other member same],
    fun same => by rw [List.inj_on_of_nodup_map mirrors.distinct other member same]⟩

theorem remove (member : e ∈ m.entries) :
    Mirrors ((removing e).foldl Server.apply server) (m.erase e.id) := by
  obtain ⟨kept, ids, keys⟩ := mirrors.erased e.id
  -- The field that leaves the hash is that of this workflow alone, since no other has its key.
  constructor
  · have left := mirrors.texts.erase (documentKey e.id)
    rwa [filter_documentKey] at left
  · have left := mirrors.keys.erase e.key
    rw [Memory.Fits.filter_key (mirrors.fits_of_mem member), ← Table.getD_eraseIn] at left
    exact left
  · have left := mirrors.index.erase e.id
    rw [Documents.index, ← Table.getD_eraseIn] at left
    exact left
  · exact ids
  · exact keys
  · exact fun f other => mirrors.named f (kept f other)
  · exact fun f other => mirrors.faithful f (kept f other)

theorem file (fits : m.Fits w) (named : w.id ≠ "") (faithful : Faithful w) :
    Mirrors ((filing w).foldl Server.apply server) (m.file w) := by
  obtain ⟨kept, ids, keys⟩ := mirrors.erased w.id
  -- What had the id had the key too: each of the three tables loses one entry at most, the same one.
  have newId : w.id ∉ (m.erase w.id).entries.map Stored.id := by
    rw [List.mem_map]
    rintro ⟨e, member, same⟩
    exact bne_iff_ne.mp (List.mem_filter.mp member).2 same
  have newKey : w.key ∉ (m.erase w.id).entries.map Stored.key := by
    rw [List.mem_map]
    rintro ⟨e, member, same⟩
    exact bne_iff_ne.mp (List.mem_filter.mp member).2 ((fits e (kept e member)).mpr same)
  constructor
  · have filed := mirrors.texts.set mirrors.texts_distinct w
    rwa [filter_documentKey] at filed
  · have filed := mirrors.keys.set mirrors.distinct w
    rw [fits.filter_key, ← Table.getD_setIn] at filed
    exact filed
  · have filed := mirrors.index.set mirrors.ids w
    rw [Documents.index, ← Table.getD_setIn] at filed
    exact filed
  · show ((_ ++ [w]).map Stored.id).Nodup
    rw [List.map_append, List.map_singleton]
    exact List.nodup_append_comm.mp (List.nodup_cons.mpr ⟨newId, ids⟩)
  · show ((_ ++ [w]).map Stored.key).Nodup
    rw [List.map_append, List.map_singleton]
    exact List.nodup_append_comm.mp (List.nodup_cons.mpr ⟨newKey, keys⟩)
  · show ∀ e ∈ _ ++ [w], e.id ≠ ""
    rw [List.forall_mem_append, List.forall_mem_singleton]
    exact ⟨fun e old => mirrors.named e (kept e old), named⟩
  · show ∀ e ∈ _ ++ [w], Faithful e
    rw [List.forall_mem_append, List.forall_mem_singleton]
    exact ⟨fun e old => mirrors.faithful e (kept e old), faithful⟩

theorem exists_delete (id : String) : ∃ after,
    (delete id).Gives server (m.delete id).1 after ∧ Mirrors after (m.delete id).2 := by
  have looked := mirrors.gives_byId? id
  cases found : m.byId? id with
  | none =>
      have absent : id ∉ m.entries.map Stored.id := by
        rw [List.mem_map]
        rintro ⟨e, member, same⟩
        exact Lookup.ne_of_find?_eq_none found e member same
      have unchanged : m.erase id = m := congrArg Memory.mk (Lookup.filter_of_not_mem absent)
      rw [Memory.delete, found, unchanged]
      rw [found] at looked
      exact ⟨server, looked.bind (Client.gives_pure false server), mirrors⟩
  | some e =>
      obtain ⟨member, rfl⟩ := (Lookup.find?_eq_some_iff mirrors.ids).mp found
      rw [Memory.delete, found]
      rw [found] at looked
      exact ⟨_, looked.bind ((Client.gives_sendAll (removing e) server).bind
        (Client.gives_pure true _)), mirrors.remove member⟩

/-- Whatever the workflow replaces, what is filed fits the others and is named, if an id that is handed
out is no empty one and none of theirs. -/
theorem fits_stamp (supply : Supply) (w : Stored)
    (fresh : w.id = "" → m.Fresh supply) :
    m.Fits (w.stamp supply (m.claimed? w)).1 ∧ (w.stamp supply (m.claimed? w)).1.id ≠ "" := by
  cases found : m.claimed? w with
  -- What is replaced hands its id and its key on. Otherwise nothing has the key, and the id is fresh.
  | some e =>
      have member : e ∈ m.entries := by
        rw [Memory.claimed?, Memory.get?, Option.or_eq_some_iff, Option.or_eq_some_iff] at found
        obtain same | ⟨-, same | ⟨-, same⟩⟩ := found
        · split at same
          · cases same
          · exact List.mem_of_find?_eq_some same
        · exact List.mem_of_find?_eq_some same
        · exact List.mem_of_find?_eq_some same
      exact ⟨fun other => mirrors.fits_of_mem member other, mirrors.named e member⟩
  | none =>
      rw [Memory.claimed?, Option.or_eq_none_iff, Memory.get?, Option.or_eq_none_iff] at found
      obtain ⟨sameId, -, sameKey⟩ := found
      have newKey : ∀ e ∈ m.entries, e.key ≠ w.key := Lookup.ne_of_find?_eq_none sameKey
      have fits {id : String} (missing : m.byId? id = none) :
          ∀ e ∈ m.entries, e.id = id ↔ e.key = w.key := fun e member =>
        ⟨fun same => absurd same (Lookup.ne_of_find?_eq_none missing e member),
          fun same => absurd same (newKey e member)⟩
      simp only [Stored.stamp, Supply.nextMoment, Supply.idFor]
      by_cases unnamed : w.id = ""
      · rw [if_pos unnamed]
        exact ⟨fits (fresh unnamed).2, (fresh unnamed).1⟩
      · rw [if_neg unnamed] at sameId ⊢
        exact ⟨fits sameId, unnamed⟩

/-- Storing files the workflow as it is stamped, if that has a document. -/
theorem gives_upsert (supply : Supply) (w : Stored)
    (written : write (w.stamp supply (m.claimed? w)).1 = .ok text) :
    (upsert supply w).Gives server (w.stamp supply (m.claimed? w))
      ((filing (w.stamp supply (m.claimed? w)).1).foldl Server.apply server) := by
  refine (mirrors.gives_existing? w).bind ?_
  generalize w.stamp supply (m.claimed? w) = stamped at written ⊢
  refine (Client.gives_checked written server).bind ?_
  have sent : Client.Gives (do Client.sendAll (filing stamped.1); return stamped) server stamped _ :=
    (Client.gives_sendAll (filing stamped.1) server).bind (Client.gives_pure stamped _)
  rwa [filing, textOf_eq written] at sent ⊢

/-- What has no document is not stored, and the server stays as it is. -/
theorem fails_upsert (supply : Supply) (w : Stored) {f : Fault}
    (unwritten : write (w.stamp supply (m.claimed? w)).1 = .error f) :
    (upsert supply w).Fails server (.document f) := by
  refine (mirrors.gives_existing? w).fails_bind ?_
  generalize w.stamp supply (m.claimed? w) = stamped at unwritten ⊢
  exact (Client.fails_checked unwritten server).bind

end Mirrors

end Documents

end Stepwise
