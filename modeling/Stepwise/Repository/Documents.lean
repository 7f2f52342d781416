import Stepwise.Json.Reading
import Stepwise.Json.Writing
import Stepwise.Repository.Server

/-!
Workflows kept on a server: a document for each, a hash that leads from keys to ids, and a sorted
set of the ids by the moment of their last storing.
-/

namespace Stepwise.Documents

/-- Where the document of an id is kept. -/
def documentKey (id : String) : String := "workflow:def:" ++ id

/-- Where the ids of the keys are kept. -/
def keysKey : String := "workflow:keys"

/-- Where the order of the ids is kept. -/
def indexKey : String := "workflow:index"

/-- The document of a workflow. -/
def write (w : Stored) : Checked String := Json.render .document (w.toValue Moment.documentText)

/-- The workflow of a document. -/
def read (text : String) : Checked Stored :=
  match Json.parse text with
  | .ok v => Stored.load v
  | .error e => .error e.fault

/-- Seconds since the first of January 1970, as a score. -/
def score (m : Moment) : Binary64 := .ofRatio (m.instant < 0) m.instant.natAbs 1000000

/-- A text that is there and not empty. -/
def present? : Option String → Option String
  | some "" => none
  | found => found

/-- The workflow of an id. -/
def byId? (id : String) : Client (Option Stored) := do
  match present? (← Client.text? (documentKey id)) with
  | none => return none
  | some text => return some (← Client.checked (read text))

/-- The workflow of an id, or else of a key. -/
def get? (name : String) : Client (Option Stored) := do
  match ← byId? name with
  | some w => return some w
  | none =>
    match present? (← Client.hashText? keysKey name) with
    | none => return none
    | some id => byId? id

/-- The workflows of some ids, without those that are not there. -/
def all : List String → Client (List Stored)
  | [] => return []
  | id :: rest => do
    let found ← byId? id
    return found.toList ++ (← all rest)

/-- All workflows, the last stored first. -/
def list : Client (List Stored) := do all (← Client.ranking indexKey)

/-- The workflow that storing replaces. -/
def existing? (w : Stored) : Client (Option Stored) := do
  let sameId ← if w.id = "" then pure none else byId? w.id
  match sameId with
  | some found => return some found
  | none => get? w.key

/-- Stores a workflow over the one of its id, or else of its key. -/
def upsert (supply : Supply) (w : Stored) : Client (Stored × Supply) := do
  let (stored, supply) := w.stamp supply (← existing? w)
  let text ← Client.checked (write stored)
  Client.sendAll [.set (documentKey stored.id) text, .hashSet keysKey stored.key stored.id,
    .rank indexKey stored.id (((stored.updated?).map score).getD .zero)]
  return (stored, supply)

/-- Removes the workflow of an id, and says whether there was one. -/
def delete (id : String) : Client Bool := do
  match ← byId? id with
  | none => return false
  | some w =>
    Client.sendAll [.delete (documentKey id), .hashDelete keysKey w.key, .unrank indexKey id]
    return true

end Stepwise.Documents
