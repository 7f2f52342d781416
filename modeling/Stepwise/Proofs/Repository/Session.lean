import Stepwise.Proofs.Repository.Documents

/-!
Clients of a server that is up: what they get, and what they make of the server.
-/

namespace Stepwise

namespace Client

variable {α β : Type} {x : Client α} {f : α → Client β} {server middle after : Server} {a : α} {b : β}

/-- On a server that is up the client gets a result and leaves the server as told. What has been sent
before makes no difference. -/
def Gives (x : Client α) (server : Server) (a : α) (after : Server) : Prop :=
  ∀ session : Session, session.server = server → session.down? = none → ∃ next : Session,
    x.runIn session = (.ok a, next) ∧ next.server = after ∧ next.down? = none

theorem gives_pure (a : α) (server : Server) : Gives (pure a) server a server :=
  fun session same up => ⟨session, rfl, same, up⟩

theorem gives_checked {result : Checked α} (done : result = .ok a) (server : Server) :
    Gives (checked result) server a server := by
  subst done
  exact gives_pure a server

theorem gives_send (c : Command) (server : Server) : Gives (send c) server () (server.apply c) := by
  rintro ⟨_, _, commands⟩ rfl rfl
  exact ⟨_, rfl, rfl, rfl⟩

theorem Gives.bind (first : Gives x server a middle) (rest : Gives (f a) middle b after) :
    Gives (x >>= f) server b after := by
  intro session same up
  obtain ⟨next, ran, now, still⟩ := first session same up
  rw [runIn_bind, ran]
  exact rest next now still

/-- On a server that is up the client fails and leaves the server as it is. -/
def Fails (x : Client α) (server : Server) (e : RepositoryError) : Prop :=
  ∀ session : Session, session.server = server → session.down? = none → ∃ next : Session,
    x.runIn session = (.error e, next) ∧ next.server = server ∧ next.down? = none

theorem fails_checked {result : Checked α} {fault : Fault} (failed : result = .error fault)
    (server : Server) : Fails (checked result) server (.document fault) := by
  subst failed
  exact fun session same up => ⟨session, rfl, same, up⟩

theorem Fails.bind {e : RepositoryError} (first : Fails x server e) : Fails (x >>= f) server e := by
  intro session same up
  obtain ⟨next, ran, now, still⟩ := first session same up
  exact ⟨next, by rw [runIn_bind, ran], now, still⟩

theorem Gives.fails_bind {e : RepositoryError} (first : Gives x server a server)
    (rest : Fails (f a) server e) : Fails (x >>= f) server e := by
  intro session same up
  obtain ⟨next, ran, now, still⟩ := first session same up
  rw [runIn_bind, ran]
  exact rest next now still

theorem gives_sendAll (commands : List Command) (server : Server) :
    Gives (sendAll commands) server () (commands.foldl Server.apply server) := by
  induction commands generalizing server with
  | nil => exact gives_pure () server
  | cons c rest ih => exact (gives_send c server).bind (ih (server.apply c))

/-- What a command asks for is looked up on the server. -/
theorem gives_look {c : Command} (look : Server → α) (asks : server.apply c = server) :
    Gives (do send c; return look (← get).server) server (look server) server := by
  have sent := gives_send c server
  rw [asks] at sent
  refine sent.bind ?_
  rintro session rfl up
  exact ⟨session, rfl, rfl, up⟩

theorem gives_text? (key : String) (server : Server) :
    Gives (text? key) server (server.text? key) server :=
  gives_look (·.text? key) rfl

theorem gives_hashText? (key field : String) (server : Server) :
    Gives (hashText? key field) server (server.hashText? key field) server :=
  gives_look (·.hashText? key field) rfl

theorem gives_ranking (key : String) (server : Server) :
    Gives (ranking key) server (server.ranking key) server :=
  gives_look (·.ranking key) rfl

end Client

end Stepwise
