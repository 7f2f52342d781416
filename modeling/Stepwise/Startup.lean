import Stepwise.Execution.History
import Stepwise.Repository.Server
import Stepwise.Text.Case
import Stepwise.Value.Convert

/-!
What is decided when the service starts, from the settings around it.
-/

namespace Stepwise

/-- Where workflows are kept. -/
inductive Backend where
  | memory
  | server
  deriving DecidableEq, Repr, Inhabited

/-- Why a service cannot start. -/
inductive StartupError where
  | unknownBackend (name : String)
  | serverAddress
  | history (cause : HistoryError)
  | fault (cause : Fault)
  deriving DecidableEq, Repr, Inhabited

def StartupError.message : StartupError → String
  | unknownBackend name => "Unknown WORKFLOW_STORE_BACKEND: " ++ name
  | serverAddress =>
    "Redis URL must specify one of the following schemes (redis://, rediss://, unix://)"
  | history e => e.message
  | fault f => f.message

/-- Settings by name. -/
abbrev Settings := Table String

namespace Settings

/-- The kinds of addresses that a server may have. -/
def addressSchemes : List String := ["redis://", "rediss://", "unix://"]

def checkAddress (address : String) : Except StartupError Unit :=
  if addressSchemes.any fun scheme => scheme.toList.isPrefixOf address.toList then .ok ()
  else .error .serverAddress

/-- Where workflows are kept. -/
def backend (s : Settings) : Except StartupError Backend := do
  let name := Text.lowerString ((s.get? "WORKFLOW_STORE_BACKEND").getD "memory")
  if name = "redis" then
    checkAddress ((s.get? "REDIS_URL").getD "redis://localhost:6379/0")
    return .server
  else if name = "memory" then return .memory
  else throw (.unknownBackend name)

/-- Are prompts looked up on a server? -/
def servesPrompts (s : Settings) : Except StartupError Bool :=
  match s.get? "REDIS_URL" with
  | none => .ok false
  | some "" => .ok false
  | some address => do
    checkAddress address
    return true

/-- The history of runs, of the size that is set. -/
def history (s : Settings) : Except StartupError History := do
  let capacity ← match s.get? "EXECUTION_HISTORY_SIZE" with
    | none => pure (History.defaultCapacity : Int)
    | some text => (Value.readInt 10 text).mapError .fault
  (History.empty capacity).mapError .history

/-- How long to wait for remote data, in seconds. -/
def timeout (s : Settings) : Except StartupError Binary64 :=
  match s.get? "EXTERNAL_API_TIMEOUT_SECONDS" with
  | none => .ok (Binary64.ofInt 30)
  | some text => (Value.readFloat text).mapError .fault

end Settings

/-- What a service starts with. -/
structure Launch where
  backend : Backend
  servesPrompts : Bool
  history : History
  timeout : Binary64

/-- Reads all settings; the first wrong one is reported. -/
def Settings.launch (s : Settings) : Except StartupError Launch := do
  let backend ← s.backend
  let servesPrompts ← s.servesPrompts
  let history ← s.history
  let timeout ← s.timeout
  return { backend, servesPrompts, history, timeout }

end Stepwise
