import Stepwise.Admission
import Stepwise.Canvas.Compile
import Stepwise.Service.Answer
import Stepwise.Service.Body
import Stepwise.Service.Listing
import Stepwise.Service.Route

/-!
Handling of requests. A request that is refused leaves the service as it is.
-/

namespace Stepwise

/-- A response with the id under which the client follows its request. -/
structure Reply where
  response : Response
  correlation? : Option String := none
  deriving Inhabited

namespace Service

/-- What is done for a request, or why it is refused. -/
abbrev Handled := Except Rejection (Response × Service)

/-- The response, and the service after it. -/
def settle (s : Service) : Handled → Response × Service
  | .ok done => done
  | .error reason => (.refuse reason, s)

/-- Answers with a value. -/
def say (s : Service) (v : Value) : Response × Service := (.ofValue v, s)

/-- Answers with a document, if there is one. -/
def sayChecked (s : Service) : Checked Value → Response × Service
  | .ok document => (.answer document, s)
  | .error _ => (.broken, s)

/-! ### Workflows -/

/-- The workflow of an id or a key. -/
def require (s : Service) (name : String) : Except Rejection Stored :=
  match s.repository.get? name with
  | some w => .ok w
  | none => .error (.unknownWorkflow name)

/-- Stores an uploaded workflow that is admitted. -/
def upload (s : Service) (b : Body) : Handled := do
  let u ← b.require Upload.reader
  match Admission.check u.definition with
  | .error (.fault _) => return (.broken, s)
  | .error refusal => throw (.unacceptable refusal.message)
  | .ok () =>
    let (stored, s) := s.save u.toStored
    return s.say stored.toDocument

/-- Compiles a canvas, and stores the workflow where that is asked for. -/
def compile (s : Service) (b : Body) : Handled := do
  let d ← b.require Drawing.reader
  match (Canvas.compile true d.nodes d.name d.description).result with
  | .error e => throw (.unacceptable e.message)
  | .ok w =>
    if d.save then
      let (stored, s) := s.save (d.toStored w)
      return s.say (.ofFields [("workflow", w.toValue), ("stored", stored.toDocument)])
    else return s.say (.ofFields [("workflow", w.toValue), ("stored", .null)])

/-- Removes the workflow of an id. -/
def remove (s : Service) (id : String) : Handled :=
  let (found, repository) := s.repository.delete id
  if found then .ok (.done, { s with repository }) else .error (.unknownWorkflow id)

/-! ### Runs -/

/-- The workflow that a request starts, and the inputs of the run. -/
def order (s : Service) (name : String) (b : Body) : Except Rejection (Stored × Fields) := do
  let inputs ← b.read Body.inputsReader (.ok [])
  return (← s.require name, inputs)

/-- Starts a run and answers when it has ended. -/
def trigger (s : Service) (name : String) (b : Body) : Traced (Response × Service) :=
  match s.order name b with
  | .error reason => pure (.refuse reason, s)
  | .ok (w, inputs) => do
    let (run, s) ← s.run w.id (.ofFields inputs)
    match run with
    | .error _ => return (.broken, s)
    | .ok run =>
      let (document, s) := s.showRun run
      return s.sayChecked document

/-- A page of the history. -/
def listRuns (s : Service) (r : Request) : Handled := do
  let l ← Listing.ofRequest r
  let (total, page) := l.page s.history
  let (documents, after) := s.showRuns page
  return after.sayChecked (documents.map fun items =>
    .ofFields [("executions", .list items), ("total", .int total), ("limit", .int l.limit),
      ("offset", .int l.offset), ("stats", s.history.stats.toValue)])

/-- The runs that have not ended. -/
def listActive (s : Service) : Response × Service :=
  let (documents, after) := s.showRuns s.history.active
  after.sayChecked (documents.map .list)

/-- The run of an id. -/
def findRun (s : Service) (id : String) : Handled :=
  match s.history.get? id with
  | none => .error (.unknownRun id)
  | some run =>
    let (document, after) := s.showRun run
    .ok (after.sayChecked document)

/-! ### Requests -/

/-- What the service says of itself. -/
def status (s : Service) : Value :=
  .ofFields [("status", .text "running"), ("workflow_count", .int s.repository.list.length),
    ("step_types", .texts (s.world.kinds.map StepKind.name)), ("stats", s.history.stats.toValue)]

/-- Does what a request asks for. -/
def serve (s : Service) (r : Request) : Route → Traced (Response × Service)
  | .greeting => pure (s.say (.ofFields [("service", .text "api"), ("status", .text "running")]))
  | .health => pure (s.say (.ofFields [("status", .text "healthy")]))
  | .status => pure (s.say s.status)
  | .workflows => pure (s.say (.list (s.repository.list.map Stored.summary)))
  | .workflow name => pure (s.settle ((s.require name).map fun w => s.say w.toDocument))
  | .upload => pure (s.settle (s.upload (.ofRequest r)))
  | .removal id => pure (s.settle (s.remove id))
  | .compilation => pure (s.settle (s.compile (.ofRequest r)))
  | .trigger name => s.trigger name (.ofRequest r)
  | .runs => pure (s.settle (s.listRuns r))
  | .activeRuns => pure s.listActive
  | .runStats => pure (s.say s.history.stats.toValue)
  | .run id => pure (s.settle (s.findRun id))

/-- The response to a request. -/
def respond (s : Service) (r : Request) : Traced (Response × Service) :=
  match Routing.ofRequest r with
  | .found route => s.serve r route
  | .wrongMethod => pure (.refuse .wrongMethod, s)
  | .nowhere => pure (.refuse .unknownPath, s)

/-- Handles a request. The id of the request is sent back unless the service is at fault. -/
def handle (s : Service) (r : Request) : Traced (Reply × Service) := do
  let (response, s) ← s.respond r
  let correlation? := match response with
    | .broken => none
    | _ => r.correlation?
  return ({ response, correlation? }, s)

end Service

end Stepwise
