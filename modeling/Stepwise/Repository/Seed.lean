import Stepwise.Repository.Documents
import Stepwise.Repository.Memory
import Stepwise.Workflow.Builtin

/-!
Seeding: the built-in workflows are stored in a repository, over those of their ids or keys.
-/

namespace Stepwise

namespace Stored

/-- Stores workflows one after the other. -/
def storeAll {m : Type → Type} [Monad m] (upsert : Supply → Stored → m (Stored × Supply))
    (supply : Supply) : List Workflow → m (List Stored × Supply)
  | [] => pure ([], supply)
  | w :: rest => do
    let (stored, supply) ← upsert supply (.ofDefinition w)
    let (others, supply) ← storeAll upsert supply rest
    return (stored :: others, supply)

end Stored

/-- Stores the built-in workflows in memory. -/
def Memory.seed (m : Memory) (supply : Supply) : List Stored × Memory × Supply :=
  let upsert (supply : Supply) (w : Stored) : StateM Memory (Stored × Supply) := fun m =>
    let (stored, m, supply) := m.upsert supply w
    ((stored, supply), m)
  let ((stored, supply), m) := (Stored.storeAll upsert supply Builtin.workflows).run m
  (stored, m, supply)

/-- Stores the built-in workflows on a server. -/
def Documents.seed (supply : Supply) : Client (List Stored × Supply) :=
  Stored.storeAll Documents.upsert supply Builtin.workflows

end Stepwise
