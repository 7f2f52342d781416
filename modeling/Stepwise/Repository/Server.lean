import Stepwise.Number.Binary64
import Stepwise.Repository.Stored

/-!
A server that keeps texts, hashes of texts and sorted sets, each under a key, and the sessions in
which commands are sent to it. The commands of a session are kept in order.
-/

namespace Stepwise

/-! ### Tables -/

/-- Data by names, each name at most once. -/
abbrev Table (α : Type) := List (String × α)

namespace Table

variable {α : Type}

def get? (t : Table α) (name : String) : Option α := (t.find? (·.1 == name)).map (·.2)

/-- Sets a name; one that is there already keeps its place. -/
def set (t : Table α) (name : String) (a : α) : Table α :=
  if t.any (·.1 == name) then t.map fun e => if e.1 == name then (name, a) else e
  else t ++ [(name, a)]

def erase (t : Table α) (name : String) : Table α := t.filter (·.1 != name)

/-- Sets a name of the table under a key. A table that is not there counts as empty. -/
def setIn (t : Table (Table α)) (key name : String) (a : α) : Table (Table α) :=
  t.set key (((t.get? key).getD []).set name a)

/-- Removes a name of the table under a key. -/
def eraseIn (t : Table (Table α)) (key name : String) : Table (Table α) :=
  match t.get? key with
  | none => t
  | some inner => t.set key (inner.erase name)

end Table

/-! ### The server -/

structure Server where
  texts : Table String := []
  hashes : Table (Table String) := []
  /-- The members of each sorted set with their scores. -/
  rankings : Table (Table Binary64) := []
  deriving Inhabited

/-- What is sent to a server. -/
inductive Command where
  | get (key : String)
  | hashGet (key field : String)
  /-- All members of a sorted set. -/
  | ranking (key : String)
  | set (key text : String)
  | hashSet (key field text : String)
  | rank (key member : String) (score : Binary64)
  | delete (key : String)
  | hashDelete (key field : String)
  | unrank (key member : String)
  deriving DecidableEq, Repr, Inhabited

namespace Server

def text? (s : Server) (key : String) : Option String := s.texts.get? key

def hashText? (s : Server) (key field : String) : Option String :=
  (s.hashes.get? key).bind (·.get? field)

/-- Does a member come before another? The higher score does, and of equal scores the later name. -/
def outranks (a b : String × Binary64) : Bool := b.2.lt a.2 || (b.2.eq a.2 && decide (b.1 ≤ a.1))

/-- The members of a sorted set, the highest score first. -/
def ranking (s : Server) (key : String) : List String :=
  (((s.rankings.get? key).getD []).mergeSort outranks).map (·.1)

/-- The server after a command; most commands that ask leave it as it is. -/
def apply (s : Server) : Command → Server
  | .get _ => s
  | .hashGet .. => s
  | .ranking _ => s
  | .set key text => { s with texts := s.texts.set key text }
  | .hashSet key field text => { s with hashes := s.hashes.setIn key field text }
  | .rank key member score => { s with rankings := s.rankings.setIn key member score }
  | .delete key => { s with texts := s.texts.erase key }
  | .hashDelete key field => { s with hashes := s.hashes.eraseIn key field }
  | .unrank key member => { s with rankings := s.rankings.eraseIn key member }

end Server

/-! ### Sessions -/

/-- A server as its clients see it: it may be down, and what is sent to it is kept. -/
structure Session where
  server : Server := {}
  /-- What the errors of a server that is down say. -/
  down? : Option String := none
  commands : List Command := []
  deriving Inhabited

/-- What a client does in a session. After an error the session goes on. -/
abbrev Client (α : Type) := ExceptT RepositoryError (StateM Session) α

namespace Client

/-- Sends a command. -/
def send (c : Command) : Client Unit := do
  let s ← get
  match s.down? with
  | some text => throw (.unreachable text)
  | none => set { s with server := s.server.apply c, commands := s.commands ++ [c] }

/-- Sends commands that are carried out together. -/
def sendAll (cs : List Command) : Client Unit := cs.forM send

def text? (key : String) : Client (Option String) := do
  send (.get key)
  return (← get).server.text? key

def hashText? (key field : String) : Client (Option String) := do
  send (.hashGet key field)
  return (← get).server.hashText? key field

def ranking (key : String) : Client (List String) := do
  send (.ranking key)
  return (← get).server.ranking key

/-- A result that may be a fault of a document. -/
def checked {α : Type} : Checked α → Client α
  | .ok a => pure a
  | .error f => throw (.document f)

/-- Carries out what a client does. -/
def runIn {α : Type} (x : Client α) (s : Session) : Except RepositoryError α × Session :=
  (ExceptT.run x).run s

end Client

end Stepwise
