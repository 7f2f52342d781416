import Stepwise.Json.Writing
import Stepwise.Text.Case
import Stepwise.Value.Fields
import Stepwise.Value.Written

/-!
The journal of a service: lines about what happens, each with the id under which the work that it
belongs to is followed. Lines below the level of the journal are left out.
-/

namespace Stepwise

/-- How much a line matters. -/
inductive Severity where
  | unset
  | debug
  | info
  | warning
  | error
  | critical
  deriving DecidableEq, Repr, Inhabited

namespace Severity

def rank : Severity → Nat
  | unset => 0
  | debug => 10
  | info => 20
  | warning => 30
  | error => 40
  | critical => 50

def name : Severity → String
  | unset => "NOTSET"
  | debug => "DEBUG"
  | info => "INFO"
  | warning => "WARNING"
  | error => "ERROR"
  | critical => "CRITICAL"

def all : List Severity := [unset, debug, info, warning, error, critical]

/-- The severity of a name. Two of them have a second name. -/
def ofName? (s : String) : Option Severity :=
  if s = "WARN" then some warning
  else if s = "FATAL" then some critical
  else all.find? (·.name == s)

theorem ofName?_name (s : Severity) : ofName? s.name = some s := by cases s <;> decide

end Severity

/-- Why a journal cannot be opened or written. -/
inductive JournalError where
  | unknownLevel (name : String)
  /-- A member that every line has already. -/
  | taken (name : String)
  /-- A member that JSON has no form for. -/
  | unwritable (cause : Fault)
  deriving DecidableEq, Repr, Inhabited

def JournalError.message : JournalError → String
  | unknownLevel name => "Unknown level: " ++ Text.quoted name
  | taken name => Text.quoted ("Attempt to overwrite " ++ Text.quoted name ++ " in LogRecord")
  | unwritable f => f.message

/-- One line of a journal, before it is written. -/
structure Entry where
  severity : Severity
  /-- Who writes it. -/
  source : String
  message : String
  extra : Fields := []
  deriving Inhabited

structure Journal where
  service : String
  level : Severity := .info
  /-- The ids of the work that is being done, the innermost first. -/
  following : List String := []
  deriving Inhabited

namespace Journal

/-- The journal of a service at the level of a name. -/
def ofLevel (service : String) (level? : Option String) : Except JournalError Journal :=
  let name := Text.upperString (level?.getD Severity.info.name)
  match Severity.ofName? name with
  | some level => .ok { service, level }
  | none => .error (.unknownLevel name)

/-- The id of the work that is being done. -/
def current (j : Journal) : String := j.following.headD ""

/-- Begins work under an id. -/
def follow (j : Journal) (id : String) : Journal := { j with following := id :: j.following }

/-- Goes back to the work before. -/
def goBack (j : Journal) : Journal := { j with following := j.following.tail }

/-- Members that a line has of itself, whether they are written or not. -/
def takenNames : List String :=
  ["message", "asctime", "name", "msg", "args", "levelname", "levelno", "pathname", "filename",
    "module", "exc_info", "exc_text", "stack_info", "lineno", "funcName", "created", "msecs",
    "relativeCreated", "thread", "threadName", "processName", "process"]

/-- Members that are not written even if they are given. -/
def isHidden (name : String) : Bool := name.startsWith "_" || name == "taskName"

/-- Is a line written? -/
def accepts (j : Journal) (s : Severity) : Bool :=
  decide (0 < s.rank) && decide (j.level.rank ≤ s.rank)

/-- The members of a line. The journal's own members take the place of others of their names. -/
def members (j : Journal) (time : String) (e : Entry) : Except JournalError Fields :=
  match e.extra.find? fun f => takenNames.contains f.1 with
  | some (name, _) => .error (.taken name)
  | none =>
    .ok (Fields.merge (e.extra.filter fun f => !isHidden f.1)
      [("timestamp", .text time), ("logger", .text e.source), ("level", .text e.severity.name),
        ("service", .text j.service), ("correlation_id", .text j.current),
        ("message", .text e.message)])

/-- The line of an entry, which is JSON text, if it is written. -/
def line? (j : Journal) (time : String) (e : Entry) : Except JournalError (Option String) := do
  if !j.accepts e.severity then return none
  let members ← j.members time e
  let text ← (Json.render .plain (.ofFields members)).mapError .unwritable
  return some text

/-- The first entry of a journal. -/
def opening (j : Journal) : Entry where
  severity := .info
  source := "shared.logging_config"
  message := "Logging configured"
  extra := [("log_level", .int j.level.rank)]

end Journal

end Stepwise
