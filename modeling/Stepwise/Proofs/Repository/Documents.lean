import Stepwise.Repository.Documents

/-!
Workflows on a server: what only looks something up leaves the server as it is, and so does a removal
that finds nothing.
-/

namespace Stepwise

/-! ### Clients that only read -/

namespace Client

variable {α β : Type} {x : Client α} {f : α → Client β}

/-- What a client does leaves the server as it is. -/
def Reads (x : Client α) : Prop := ∀ session, (x.runIn session).2.server = session.server

theorem runIn_bind (x : Client α) (f : α → Client β) (session : Session) :
    (x >>= f).runIn session = match x.runIn session with
      | (.ok a, next) => (f a).runIn next
      | (.error e, next) => (.error e, next) := by
  show (StateT.bind x (ExceptT.bindCont f)) session = _
  simp only [StateT.bind, runIn, ExceptT.run, StateT.run]
  show (match x session with | (a, s') => ExceptT.bindCont f a s') = _
  rcases x session with ⟨a | a, s⟩ <;> rfl

theorem reads_pure (a : α) : Reads (pure a : Client α) := fun _ => rfl

theorem reads_throw (e : RepositoryError) : Reads (throw e : Client α) := fun _ => rfl

theorem Reads.bind (first : Reads x) (rest : ∀ a, Reads (f a)) : Reads (x >>= f) := by
  intro session
  have before := first session
  rw [runIn_bind]
  cases ran : x.runIn session with
  | mk result next =>
      rw [ran] at before
      cases result with
      | error e => exact before
      | ok a => exact (rest a next).trans before

theorem reads_send {c : Command} (asks : ∀ server : Server, server.apply c = server) :
    Reads (send c) := by
  rintro ⟨server, down?, commands⟩
  cases down? with
  | some text => rfl
  | none => exact asks server

theorem reads_text? (key : String) : Reads (text? key) :=
  (reads_send fun _ => rfl).bind fun _ => fun _ => rfl

theorem reads_hashText? (key field : String) : Reads (hashText? key field) :=
  (reads_send fun _ => rfl).bind fun _ => fun _ => rfl

theorem reads_checked (x : Checked α) : Reads (checked x) := by
  cases x with
  | ok a => exact reads_pure a
  | error e => exact reads_throw _

end Client

/-! ### Workflows -/

namespace Documents

open Client (Reads)

theorem reads_byId? (id : String) : Reads (byId? id) := by
  apply (Client.reads_text? _).bind
  intro found
  split
  · exact Client.reads_pure _
  · exact (Client.reads_checked _).bind fun w => Client.reads_pure _

/-- Looking a workflow up changes nothing on the server. -/
theorem reads_get? (name : String) : Reads (get? name) := by
  apply (reads_byId? name).bind
  intro found
  split
  · exact Client.reads_pure _
  · apply (Client.reads_hashText? _ _).bind
    intro filed
    split
    · exact Client.reads_pure _
    · exact reads_byId? _

/-- Nothing is removed from the server if there is nothing under the id. -/
theorem server_of_not_deleted {id : String} {session after : Session}
    (missing : (delete id).runIn session = (.ok false, after)) : after.server = session.server := by
  have looked := reads_byId? id session
  rw [delete, Client.runIn_bind] at missing
  cases ran : (byId? id).runIn session with
  | mk result next =>
      rw [ran] at missing looked
      cases result with
      | error e => cases missing
      | ok found =>
          cases found with
          | none =>
              cases missing
              exact looked
          | some w =>
              dsimp only at missing
              rw [Client.runIn_bind] at missing
              split at missing
              · cases missing
              · cases missing

end Documents

end Stepwise
