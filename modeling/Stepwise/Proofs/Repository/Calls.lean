import Stepwise.Proofs.Checked
import Stepwise.Proofs.Repository.Mirror

/-!
Calls to a repository on a server, one after the other. Whatever is stored and removed, the documents, the
ids under the keys and the order of the ids tell of the same workflows.
-/

namespace Stepwise

/-- What a repository of workflows is asked. -/
inductive RepositoryCall where
  | upsert (w : Stored)
  | get (name : String)
  | list
  | delete (id : String)

inductive RepositoryAnswer where
  | stored (w : Stored)
  | found (w? : Option Stored)
  | listed (ws : List Stored)
  | deleted (was : Bool)

namespace RepositoryCall

variable {σ α : Type} {answer : σ → RepositoryCall → α × σ} {s : σ} {c : RepositoryCall}
  {rest : List RepositoryCall} {P : σ → Stored → Prop}

/-- The answers to calls that are made one after the other, and what comes of them. -/
def answerAll (answer : σ → RepositoryCall → α × σ) (s : σ) : List RepositoryCall → List α × σ
  | [] => ([], s)
  | c :: rest =>
    let (a, s) := answer s c
    let (others, s) := answerAll answer s rest
    (a :: others, s)

theorem answerAll_cons : answerAll answer s (c :: rest) =
    ((answer s c).1 :: (answerAll answer (answer s c).2 rest).1,
      (answerAll answer (answer s c).2 rest).2) := rfl

/-- Whenever a workflow is to be stored it has some relation to what the calls have come to. -/
def AtStores (answer : σ → RepositoryCall → α × σ) (s : σ) (calls : List RepositoryCall)
    (P : σ → Stored → Prop) : Prop :=
  ∀ pre w post, calls = pre ++ .upsert w :: post → P (answerAll answer s pre).2 w

theorem atStores_nil : AtStores answer s [] P := fun pre w post split => by
  cases pre <;> cases split

theorem atStores_cons : AtStores answer s (c :: rest) P ↔
    (∀ w, c = .upsert w → P s w) ∧ AtStores answer (answer s c).2 rest P := by
  constructor
  · intro holds
    refine ⟨?_, fun pre w post split => holds (c :: pre) w post (congrArg (c :: ·) split)⟩
    rintro w rfl
    exact holds [] w rest rfl
  · rintro ⟨first, others⟩ pre w post split
    cases pre with
    | nil => exact first w (List.cons.inj split).1
    | cons c' pre =>
        obtain ⟨rfl, tail⟩ := List.cons.inj split
        exact others pre w post tail

end RepositoryCall

namespace Documents

open RepositoryCall (answerAll answerAll_cons AtStores atStores_nil atStores_cons)

/-- Answers a call. -/
def reply (supply : Supply) : RepositoryCall → Client (RepositoryAnswer × Supply)
  | .upsert w => do
    let (stored, supply) ← upsert supply w
    return (.stored stored, supply)
  | .get name => do return (.found (← get? name), supply)
  | .list => do return (.listed (← list), supply)
  | .delete id => do return (.deleted (← delete id), supply)

/-- A session with what is left to stamp workflows with. -/
structure Archive where
  session : Session := {}
  supply : Supply

namespace Archive

/-- Carries out a call. What fails takes nothing from the supply. -/
def call (a : Archive) (c : RepositoryCall) : Except RepositoryError RepositoryAnswer × Archive :=
  match (reply a.supply c).runIn a.session with
  | (.ok (answer, supply), session) => (.ok answer, { session, supply })
  | (.error e, session) => (.error e, { a with session })

/-- The id that is handed out next is not empty, and no document has it. -/
def Fresh (a : Archive) : Prop :=
  a.supply.nextId ≠ "" ∧ a.session.server.text? (documentKey a.supply.nextId) = none

/-- The server is up and holds the workflows of the memory, each with the moment of its latest storing. -/
structure Backed (a : Archive) (m : Memory) : Prop where
  mirrors : Mirrors a.session.server m
  up : a.session.down? = none
  updated : ∀ w ∈ m.entries, ∃ t, w.updated? = some t

variable {a : Archive} {m : Memory} {w : Stored} {c : RepositoryCall}

theorem backed_empty (supply : Supply) : Backed { supply } {} where
  mirrors := mirrors_empty
  up := rfl
  updated _ absent := nomatch absent

theorem exists_call_of_gives {answer : RepositoryAnswer} {supply : Supply} {after : Server}
    (gives : (reply a.supply c).Gives a.session.server (answer, supply) after)
    (up : a.session.down? = none) : ∃ next : Archive, a.call c = (.ok answer, next) ∧
      next.supply = supply ∧ next.session.server = after ∧ next.session.down? = none := by
  obtain ⟨session, ran, now, still⟩ := gives a.session rfl up
  exact ⟨⟨session, supply⟩, by rw [call, ran], rfl, now, still⟩

namespace Backed

variable (backed : a.Backed m)
include backed

theorem fresh_iff : a.Fresh ↔ m.Fresh a.supply := by
  rw [Fresh, Memory.Fresh, backed.mirrors.text?_eq, Option.map_eq_none_iff]

/-- A call that only looks something up. -/
theorem exists_call_of_looks {answer : RepositoryAnswer}
    (gives : (reply a.supply c).Gives a.session.server (answer, a.supply) a.session.server) :
    ∃ next, a.call c = (.ok answer, next) ∧ next.supply = a.supply ∧ next.Backed m := by
  obtain ⟨next, answered, supply, now, still⟩ := exists_call_of_gives gives backed.up
  exact ⟨next, answered, supply, by rw [now]; exact backed.mirrors, still, backed.updated⟩

theorem exists_call_get (name : String) : ∃ next,
    a.call (.get name) = (.ok (.found (m.get? name)), next) ∧ next.supply = a.supply ∧
      next.Backed m :=
  backed.exists_call_of_looks ((backed.mirrors.gives_get? name).bind (Client.gives_pure _ _))

theorem exists_call_list : ∃ next,
    a.call .list = (.ok (.listed ((a.session.server.ranking indexKey).filterMap m.byId?)), next) ∧
      next.supply = a.supply ∧ next.Backed m :=
  backed.exists_call_of_looks (backed.mirrors.gives_list.bind (Client.gives_pure _ _))

theorem exists_call_delete (id : String) : ∃ next,
    a.call (.delete id) = (.ok (.deleted (m.delete id).1), next) ∧ next.supply = a.supply ∧
      next.Backed (m.delete id).2 := by
  obtain ⟨after, gives, mirrors⟩ := backed.mirrors.exists_delete id
  have replied : (reply a.supply (.delete id)).Gives a.session.server
      (.deleted (m.delete id).1, a.supply) after := gives.bind (Client.gives_pure _ _)
  obtain ⟨next, answered, supply, now, still⟩ := exists_call_of_gives replied backed.up
  refine ⟨next, answered, supply, by rwa [now], still, fun w member => ?_⟩
  exact backed.updated w (List.mem_filter.mp member).1

/-- Storing answers what is stored, if that has a document. -/
theorem exists_call_upsert {text : String} (fresh : w.id = "" → m.Fresh a.supply)
    (written : write (w.stamp a.supply (m.claimed? w)).1 = .ok text) : ∃ next,
      a.call (.upsert w) = (.ok (.stored (w.stamp a.supply (m.claimed? w)).1), next) ∧
        next.supply = (w.stamp a.supply (m.claimed? w)).2 ∧
        (Faithful (w.stamp a.supply (m.claimed? w)).1 →
          next.Backed (m.file (w.stamp a.supply (m.claimed? w)).1)) := by
  have replied : (reply a.supply (.upsert w)).Gives a.session.server
      (.stored (w.stamp a.supply (m.claimed? w)).1, (w.stamp a.supply (m.claimed? w)).2) _ :=
    (backed.mirrors.gives_upsert a.supply w written).bind (Client.gives_pure _ _)
  obtain ⟨next, answered, supply, now, still⟩ := exists_call_of_gives replied backed.up
  refine ⟨next, answered, supply, fun faithful => ⟨?_, still, ?_⟩⟩
  · obtain ⟨fits, named⟩ := backed.mirrors.fits_stamp a.supply w fresh
    rw [now]
    exact backed.mirrors.file fits named faithful
  · show ∀ e ∈ _ ++ [_], _
    rw [List.forall_mem_append, List.forall_mem_singleton]
    exact ⟨fun e old => backed.updated e (List.mem_filter.mp old).1,
      _, Stored.updated?_stamp a.supply w _⟩

theorem exists_call_unwritten {f : Fault}
    (unwritten : write (w.stamp a.supply (m.claimed? w)).1 = .error f) : ∃ next,
      a.call (.upsert w) = (.error (.document f), next) ∧ next.supply = a.supply ∧ next.Backed m := by
  have failed : (reply a.supply (.upsert w)).Fails a.session.server (.document f) :=
    (backed.mirrors.fails_upsert a.supply w unwritten).bind
  obtain ⟨session, ran, now, still⟩ := failed a.session rfl backed.up
  exact ⟨{ a with session }, by rw [call, ran], rfl, by rw [now]; exact backed.mirrors, still,
    backed.updated⟩

/-- One call keeps the server in line with some memory. -/
theorem exists_call (fresh : ∀ w, c = .upsert w → w.id = "" → a.Fresh)
    (faithful : ∀ w, (a.call c).1 = .ok (.stored w) → Faithful w) :
    ∃ m', (a.call c).2.Backed m' := by
  cases c with
  | upsert w =>
      cases written : write (w.stamp a.supply (m.claimed? w)).1 with
      | ok text =>
          obtain ⟨next, answered, -, kept⟩ := backed.exists_call_upsert
            (fun unnamed => backed.fresh_iff.mp (fresh w rfl unnamed)) written
          rw [answered] at faithful ⊢
          exact ⟨_, kept (faithful _ rfl)⟩
      | error f =>
          obtain ⟨next, answered, -, kept⟩ := backed.exists_call_unwritten written
          rw [answered]
          exact ⟨m, kept⟩
  | get name =>
      obtain ⟨next, answered, -, kept⟩ := backed.exists_call_get name
      rw [answered]
      exact ⟨m, kept⟩
  | list =>
      obtain ⟨next, answered, -, kept⟩ := backed.exists_call_list
      rw [answered]
      exact ⟨m, kept⟩
  | delete id =>
      obtain ⟨next, answered, -, kept⟩ := backed.exists_call_delete id
      rw [answered]
      exact ⟨_, kept⟩

end Backed

theorem Backed.exists_answerAll {calls : List RepositoryCall} (backed : a.Backed m)
    (fresh : AtStores call a calls fun a w => w.id = "" → a.Fresh)
    (faithful : ∀ w, .ok (.stored w) ∈ (answerAll call a calls).1 → Faithful w) :
    ∃ m', (answerAll call a calls).2.Backed m' := by
  -- The memory is found anew after every call; that there is one is what the induction carries.
  induction calls generalizing a m with
  | nil => exact ⟨m, backed⟩
  | cons c rest ih =>
      obtain ⟨now, later⟩ := atStores_cons.mp fresh
      obtain ⟨m', kept⟩ := backed.exists_call now fun w same =>
        faithful w (List.mem_cons.mpr (Or.inl same.symm))
      exact ih kept later fun w member => faithful w (List.mem_cons_of_mem _ member)

end Archive

/-! ### What the server tells -/

/-- The workflows of the documents. -/
def contents (server : Server) : List Stored := server.texts.filterMap fun e => (read e.2).toOption

/-- The documents, the ids under the keys and the order of the ids tell of the same workflows. -/
structure Aligned (session : Session) : Prop where
  /-- Every text is a document, and stands under the id of its workflow. -/
  documents : ∀ key text, session.server.text? key = some text ↔
    ∃ w ∈ contents session.server, key = documentKey w.id ∧ write w = .ok text
  ids : ((contents session.server).map Stored.id).Nodup
  distinct : ((contents session.server).map Stored.key).Nodup
  keys : ∀ key id, session.server.hashText? keysKey key = some id ↔
    ∃ w ∈ contents session.server, w.key = key ∧ w.id = id
  members : ((index session.server).map (·.1)).Nodup
  scores : ∀ id x, (id, x) ∈ index session.server ↔
    ∃ w ∈ contents session.server, w.id = id ∧ w.updated?.map score = some x
  listing : ∃ listed next, list.runIn session = (.ok listed, next) ∧
    listed.Perm (contents session.server)
  byId : ∀ w ∈ contents session.server, ∃ next, (get? w.id).runIn session = (.ok (some w), next)
  byKey : ∀ w ∈ contents session.server,
    (∀ e ∈ contents session.server, e.id = w.key → e = w) →
      ∃ next, (get? w.key).runIn session = (.ok (some w), next)

theorem Mirrors.contents_perm {server : Server} {m : Memory} (mirrors : Mirrors server m) :
    (contents server).Perm m.entries := by
  have loaded := mirrors.texts.filterMap fun e => (read e.2).toOption
  have same : ∀ w ∈ m.entries,
      ((fun e => (read e.2).toOption) ∘ fun w => (documentKey w.id, textOf w)) w = some w := by
    intro w member
    obtain ⟨text, written, loads⟩ := mirrors.faithful w member
    show (read (textOf w)).toOption = some w
    rw [textOf_eq written, loads]
    rfl
  rwa [List.filterMap_map, List.filterMap_congr same, List.filterMap_some] at loaded

theorem Archive.Backed.aligned {a : Archive} {m : Memory} (backed : a.Backed m) : Aligned a.session := by
  have mirrors := backed.mirrors
  have same := mirrors.contents_perm
  have kept {w : Stored} : w ∈ contents a.session.server ↔ w ∈ m.entries := same.mem_iff
  have dated {w : Stored} (member : w ∈ m.entries) : w.updated?.map score = some (scoreOf w) := by
    obtain ⟨t, updated⟩ := backed.updated w member
    rw [scoreOf, updated]
    rfl
  have finds {name : String} {w : Stored} (found : m.get? name = some w) :
      ∃ next, (get? name).runIn a.session = (.ok (some w), next) := by
    obtain ⟨next, ran, -⟩ := mirrors.gives_get? name a.session rfl backed.up
    exact ⟨next, by rw [ran, found]⟩
  constructor
  case documents =>
    intro key text
    rw [Server.text?, mirrors.texts.get?_eq_some_iff mirrors.texts_distinct]
    simp only [kept]
    refine exists_congr fun w => and_congr_right fun member => ?_
    obtain ⟨written, done, -⟩ := mirrors.faithful w member
    rw [textOf_eq done, done, eq_comm, Except.ok.injEq]
  case ids => exact (same.map _).nodup_iff.mpr mirrors.ids
  case distinct => exact (same.map _).nodup_iff.mpr mirrors.distinct
  case keys =>
    intro key id
    rw [hashText?_keysKey, mirrors.keys.get?_eq_some_iff mirrors.distinct]
    simp only [kept]
  case members => exact mirrors.index.names.nodup_iff.mpr mirrors.ids
  case scores =>
    intro id x
    rw [mirrors.index.mem_iff]
    simp only [kept, Prod.mk.injEq]
    refine exists_congr fun w => and_congr_right fun member => ?_
    rw [dated member, Option.some.injEq]
  case listing =>
    obtain ⟨next, ran, -⟩ := mirrors.gives_list a.session rfl backed.up
    exact ⟨_, next, ran, mirrors.ranking_perm.trans same.symm⟩
  case byId =>
    intro w member
    refine finds ?_
    rw [Memory.get?, Memory.byId?, Lookup.find?_of_mem mirrors.ids (kept.mp member), Option.some_or]
  case byKey =>
    intro w member alone
    have byKey : m.byKey? w.key = some w := Lookup.find?_of_mem mirrors.distinct (kept.mp member)
    refine finds ?_
    rw [Memory.get?]
    cases found : m.byId? w.key with
    | none => rwa [Option.none_or]
    | some e =>
        obtain ⟨other, equal⟩ := (Lookup.find?_eq_some_iff mirrors.ids).mp found
        rw [Option.some_or, alone e (kept.mpr other) equal]

/-- Whatever calls are made to an empty server, the documents and the two tables beside them tell of the
same workflows, each listed once and found by its id, and by its key unless another has that as its id. It
is taken for granted that ids are handed out fresh and that what is stored is read as it was. -/
theorem aligned_of_calls (supply : Supply) (calls : List RepositoryCall)
    (fresh : AtStores Archive.call { supply } calls fun a w => w.id = "" → a.Fresh)
    (faithful : ∀ w, .ok (.stored w) ∈ (answerAll Archive.call { supply } calls).1 → Faithful w) :
    Aligned (answerAll Archive.call { supply } calls).2.session := by
  obtain ⟨m, backed⟩ := (Archive.backed_empty supply).exists_answerAll fresh faithful
  exact backed.aligned

/-! ### Workflows without steps -/

/-- No steps, no triggers and no drawing. -/
def plain (w : Stored) : Bool :=
  w.definition.steps.isEmpty && w.definition.triggers.isEmpty && w.drawing.isNone

/-- All that there is to a plain workflow. -/
def card (w : Stored) : List (Option String) × List (Option Moment) :=
  ([w.id, w.key, w.name, w.description, w.version, w.definition.id, w.definition.name,
    w.definition.version, w.definition.description], [w.created?, w.updated?])

/-- The plain workflow is read from its document as it is. -/
def rereads (w : Stored) : Bool :=
  plain w && (read (textOf w)).toOption.any fun r => plain r && decide (card r = card w)

theorem eq_of_card {w r : Stored} (bare : plain w = true) (bare' : plain r = true)
    (same : card r = card w) : r = w := by
  obtain ⟨_, _, _, _, _, ⟨_, _, _, _, _, _⟩, _, _, _⟩ := w
  obtain ⟨_, _, _, _, _, ⟨_, _, _, _, _, _⟩, _, _, _⟩ := r
  simp only [plain, Bool.and_eq_true, List.isEmpty_iff, Option.isNone_iff_eq_none] at bare bare'
  obtain ⟨⟨rfl, rfl⟩, rfl⟩ := bare
  obtain ⟨⟨rfl, rfl⟩, rfl⟩ := bare'
  simp only [card, Prod.mk.injEq, List.cons.injEq, Option.some.injEq] at same
  obtain ⟨⟨rfl, rfl, rfl, rfl, rfl, rfl, rfl, rfl, rfl, -⟩, rfl, rfl, -⟩ := same
  rfl

theorem faithful_of_rereads {w : Stored} (holds : rereads w = true) : Faithful w := by
  obtain ⟨bare, loads⟩ := Bool.and_eq_true_iff.mp holds
  obtain ⟨r, loaded, same⟩ := exists_of_toOption_any loads
  obtain ⟨bare', same⟩ := Bool.and_eq_true_iff.mp same
  rw [eq_of_card bare bare' (of_decide_eq_true same)] at loaded
  cases written : write w with
  | ok text => exact ⟨text, written, by rwa [textOf_eq written] at loaded⟩
  | error f =>
      rw [textOf, written] at loaded
      exact absurd loaded read_ne_ok_empty

/-- The second workflow takes the place of the first, whose id is its key. -/
def claiming : List RepositoryCall :=
  [.upsert (Memory.titled "" "x"), .upsert (Memory.titled "y" "0")]

/-- What stands under the id of the first workflow once it was stored again. -/
def claimed (updated : Int) : Stored :=
  { Memory.titled "0" "x" with
    created? := some { seconds := 0 }
    updated? := some { seconds := updated } }

theorem faithful_claimed : Faithful (claimed 0) ∧ Faithful (claimed 1) :=
  ⟨faithful_of_rereads (by decide +kernel), faithful_of_rereads (by decide +kernel)⟩

theorem answers_claiming : (answerAll Archive.call { supply := Memory.ticking } claiming).1 =
    [.ok (.stored (claimed 0)), .ok (.stored (claimed 1))] := by
  obtain ⟨first, second⟩ := faithful_claimed
  obtain ⟨text, written, -⟩ := id first
  obtain ⟨a, answered, supply, kept⟩ := (Archive.backed_empty Memory.ticking).exists_call_upsert
    (w := Memory.titled "" "x") (fun _ => ⟨by decide, rfl⟩) written
  obtain ⟨text', written', -⟩ := second
  obtain ⟨next, answered', -⟩ := (kept first).exists_call_upsert (w := Memory.titled "y" "0")
    (fun unnamed => absurd unnamed (by decide)) (by rw [supply]; exact written')
  rw [supply] at answered'
  rw [claiming, answerAll_cons, answerAll_cons, answered, answered']
  rfl

theorem aligned_of_calls_claiming :
    Aligned (answerAll Archive.call { supply := Memory.ticking } claiming).2.session ∧
    (answerAll Archive.call { supply := Memory.ticking } claiming).1 =
      [.ok (.stored (claimed 0)), .ok (.stored (claimed 1))] := by
  refine ⟨aligned_of_calls Memory.ticking claiming ?_ ?_, answers_claiming⟩
  · rw [claiming, atStores_cons, atStores_cons]
    refine ⟨fun _ _ _ => ⟨by decide, rfl⟩, ?_, ?_⟩
    · rintro _ ⟨⟩ unnamed
      exact absurd unnamed (by decide)
    · exact atStores_nil
  · intro w stored
    obtain ⟨first, second⟩ := faithful_claimed
    rw [answers_claiming, List.mem_cons, List.mem_singleton] at stored
    obtain ⟨⟨⟩⟩ | ⟨⟨⟩⟩ := stored
    · exact first
    · exact second

end Documents

end Stepwise
