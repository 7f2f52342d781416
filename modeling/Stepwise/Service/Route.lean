import Stepwise.Service.Request

/-!
Routes: what a request asks for, by its method and its path.
-/

namespace Stepwise

inductive Route where
  | greeting
  | health
  | status
  | workflows
  | workflow (name : String)
  | upload
  | removal (id : String)
  | compilation
  | trigger (name : String)
  | runs
  | activeRuns
  | runStats
  | run (id : String)
  deriving DecidableEq, Repr, Inhabited

/-- Where a request leads. -/
inductive Routing where
  | found (route : Route)
  | wrongMethod
  | nowhere
  deriving DecidableEq, Repr, Inhabited

namespace Routing

/-- What can be asked for at the parts of a path, by the method. -/
def routesAt : List String → List (Method × Route)
  | [""] => [(.get, .greeting)]
  | ["health"] => [(.get, .health)]
  | ["status"] => [(.get, .status)]
  | ["workflows"] => [(.get, .workflows), (.put, .upload)]
  | ["workflows", name] =>
    if name = "" then []
    else [(.get, .workflow name), (.delete, .removal name)] ++
      (if name = "compile" then [(.post, .compilation)] else [])
  | ["workflows", "trigger", name] => if name = "" then [] else [(.post, .trigger name)]
  | ["executions"] => [(.get, .runs)]
  | ["executions", "active"] => [(.get, .activeRuns)]
  | ["executions", "stats"] => [(.get, .runStats)]
  | ["executions", id] => if id = "" then [] else [(.get, .run id)]
  | _ => []

/-- The parts of a path after its first slash. -/
def parts (path : String) : List String :=
  let body := if path.toList.head? = some '/' then path.toList.drop 1 else path.toList
  (Text.splitAtText ['/'] body.length body).map String.ofList

/-- A path without the slashes at its end. -/
def withoutEndSlash (path : String) : String :=
  String.ofList (Text.trimRightBy (· == '/') path.toList)

/-- The routes of a path, or else those of the path without the slashes at its end. -/
def candidates (path : String) : List (Method × Route) :=
  match routesAt (parts path) with
  | [] =>
    let shorter := withoutEndSlash path
    if shorter = path ∨ shorter = "" then [] else routesAt (parts shorter)
  | routes => routes

def ofRequest (r : Request) : Routing :=
  let all := candidates r.path
  match all.find? (·.1 == r.method) with
  | some (_, route) => .found route
  | none => if all.isEmpty then .nowhere else .wrongMethod

end Routing

end Stepwise
