import Stepwise.Execution.Engine
import Stepwise.Prompt.Store
import Stepwise.Repository.Seed

/-!
The service: the world, the repository and the history that all requests share.
-/

namespace Stepwise

structure Service where
  world : World
  repository : Memory := {}
  supply : Supply
  history : History
  /-- The ids of runs, in the order in which they are started. -/
  runId : Nat → String
  runsStarted : Nat := 0
  /-- The moment at which runs start and end. -/
  now : Moment

namespace Service

/-- Stores the built-in workflows. -/
def seed (s : Service) : Service :=
  let (_, repository, supply) := s.repository.seed s.supply
  { s with repository, supply }

/-- Stores a workflow. -/
def save (s : Service) (w : Stored) : Stored × Service :=
  let (stored, repository, supply) := s.repository.upsert s.supply w
  (stored, { s with repository, supply })

/-- The definitions in the repository. -/
def source (s : Service) : Engine.Source := fun id =>
  .ok ((s.repository.get? id).map Stored.definition)

/-- Runs a workflow whose definition comes from a source. -/
def runFrom (s : Service) (source : Engine.Source) (workflow : String) (inputs : Value) :
    Traced (Checked Run × Service) := do
  let order : Order :=
    { id := s.runId s.runsStarted, workflow, inputs, started := s.now, ended := s.now }
  let (run, history) ← Engine.run s.world source s.history order
  return (run, { s with history, runsStarted := s.runsStarted + 1 })

/-- Runs a workflow of the repository. -/
def run (s : Service) (workflow : String) (inputs : Value) : Traced (Checked Run × Service) :=
  s.runFrom s.source workflow inputs

end Service

end Stepwise
