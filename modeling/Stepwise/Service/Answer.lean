import Stepwise.Json.Document
import Stepwise.Service.Basic

/-!
What the service says of workflows, runs and statistics.
-/

namespace Stepwise

/-- The workflow as a document. -/
def Stored.toDocument (w : Stored) : Value := w.toValue Moment.documentText

/-- A workflow in a listing. -/
def Stored.summary (w : Stored) : Value :=
  .ofFields [("id", .text w.id), ("key", .text w.key), ("name", .text w.name),
    ("description", (w.description.map .text).getD .null), ("version", .text w.version),
    ("triggers", .list (w.definition.triggers.map Trigger.toValue)),
    ("step_count", .int w.definition.steps.length)]

def RunStats.toFields (s : RunStats) : Fields :=
  [("total", .int s.total), ("completed", .int s.completed), ("failed", .int s.failed),
    ("running", .int s.running), ("cancelled", .int s.cancelled),
    ("success_rate", .float s.successRate), ("avg_duration_ms", .int s.meanDuration)]

def RunStats.toValue (s : RunStats) : Value := .ofFields s.toFields

def RunError.toValue (e : RunError) : Value :=
  .ofFields [("step_id", .text e.step), ("message", .text e.message),
    ("timestamp", .text e.time.documentText), ("stack", (e.stack?.map .text).getD .null)]

namespace Run

/-- The run as a value, with documents of its results. -/
def toValue (r : Run) (results : Fields) : Value :=
  .ofFields [("id", .text r.id), ("workflow_id", .text r.workflow), ("status", .text r.status.name),
    ("start_time", .text r.started.documentText),
    ("end_time", (r.ended?.map fun m => .text m.documentText).getD .null),
    ("duration_ms", (r.duration?.map .int).getD .null), ("step_results", .ofFields results),
    ("errors", .list (r.errors.map RunError.toValue))]

/-- The document of a run, and the results that are left of it. -/
def take (r : Run) : Checked Value × Fields :=
  let (documents, left) := Json.takeFields r.results
  (documents.map r.toValue, left)

end Run

namespace Service

/-- Writes a run. Its streams are used up in the history as well. -/
def showRun (s : Service) (r : Run) : Checked Value × Service :=
  let (document, left) := r.take
  (document, { s with history := s.history.update r.id { results? := some left } })

/-- Writes runs, up to the first that cannot be written. -/
def showRuns (s : Service) : List Run → Checked (List Value) × Service
  | [] => (.ok [], s)
  | r :: rest =>
    match s.showRun r with
    | (.error f, s) => (.error f, s)
    | (.ok document, s) =>
      let (documents, s) := s.showRuns rest
      (documents.map (document :: ·), s)

end Service

end Stepwise
