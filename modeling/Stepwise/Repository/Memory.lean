import Stepwise.Repository.Stored

/-!
Workflows kept in memory, in the order in which they were last stored. A workflow is found by its id
and, where none has that id, by its key.
-/

namespace Stepwise

structure Memory where
  entries : List Stored := []
  deriving Inhabited

namespace Memory

def byId? (m : Memory) (id : String) : Option Stored := m.entries.find? (·.id == id)

def byKey? (m : Memory) (key : String) : Option Stored := m.entries.find? (·.key == key)

/-- The workflow of an id, or else of a key. -/
def get? (m : Memory) (name : String) : Option Stored := (m.byId? name).or (m.byKey? name)

/-- All workflows, the last stored first. -/
def list (m : Memory) : List Stored :=
  m.entries.reverse.mergeSort fun a b => decide (b.lastStored ≤ a.lastStored)

/-- The workflow that storing replaces. -/
def existing? (m : Memory) (w : Stored) : Option Stored :=
  (if w.id = "" then none else m.byId? w.id).or (m.byKey? w.key)

/-- Removes the workflow of an id. -/
def erase (m : Memory) (id : String) : Memory := ⟨m.entries.filter (·.id != id)⟩

/-- Files a workflow last, in place of any other of its id. -/
def file (m : Memory) (w : Stored) : Memory := ⟨(m.erase w.id).entries ++ [w]⟩

/-- Stores a workflow over the one of its id, or else of its key. -/
def upsert (m : Memory) (supply : Supply) (w : Stored) : Stored × Memory × Supply :=
  let (stored, supply) := w.stamp supply (m.existing? w)
  (stored, m.file stored, supply)

/-- Removes the workflow of an id, and says whether there was one. -/
def delete (m : Memory) (id : String) : Bool × Memory := ((m.byId? id).isSome, m.erase id)

end Memory

end Stepwise
