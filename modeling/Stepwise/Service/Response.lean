import Stepwise.Json.Document
import Stepwise.Schema.Issue
import Stepwise.Service.Request

/-!
Responses of the service, and the reasons for which it refuses a request.
-/

namespace Stepwise

/-- What is wrong with a part of a request. -/
structure Complaint where
  /-- Where it is: the part of the request, and the way into that part. -/
  place : List Schema.Place
  code : String
  message : String
  input : Value
  /-- The parameters of what is wrong, by name. -/
  context : Fields := []
  deriving Inhabited

namespace Complaint

/-- An issue of a part of a request. -/
def ofIssue (part : String) (issue : Schema.Issue) : Complaint where
  place := .member part :: issue.place
  code := issue.cause.code
  message := issue.cause.message
  input := issue.input
  context := issue.cause.context

/-- A body that is no JSON text. -/
def malformed (position : Nat) (error : String) : Complaint where
  place := [.member "body", .element position]
  code := "json_invalid"
  message := "JSON decode error"
  input := .dict []
  context := [("error", .text error)]

def placeValue : Schema.Place → Value
  | .member name => .text name
  | .element index => .int index

def toValue (c : Complaint) : Value :=
  .ofFields ([("type", .text c.code), ("loc", .list (c.place.map placeValue)),
    ("msg", .text c.message), ("input", c.input)] ++
    (if c.context.isEmpty then [] else [("ctx", .ofFields c.context)]))

end Complaint

/-- Why a request is refused. -/
inductive Rejection where
  /-- The data of the request are well formed, but cannot be accepted. -/
  | unacceptable (reason : String)
  | unreadableBody
  | invalid (complaints : List Complaint)
  | unknownPath
  | unknownWorkflow (name : String)
  | unknownRun (id : String)
  | wrongMethod
  deriving Inhabited

namespace Rejection

def status : Rejection → Nat
  | unacceptable _ => 400
  | unreadableBody => 400
  | invalid _ => 422
  | unknownPath => 404
  | unknownWorkflow _ => 404
  | unknownRun _ => 404
  | wrongMethod => 405

def detail : Rejection → Value
  | unacceptable reason => .text reason
  | unreadableBody => .text "There was an error parsing the body"
  | invalid complaints => .list (complaints.map Complaint.toValue)
  | unknownPath => .text "Not Found"
  | unknownWorkflow name => .text s!"Workflow {name} not found"
  | unknownRun id => .text s!"Execution {id} not found"
  | wrongMethod => .text "Method Not Allowed"

end Rejection

inductive Response where
  /-- Success, with a document. -/
  | answer (document : Value)
  /-- Success, with nothing to say. -/
  | done
  | refused (reason : Rejection)
  /-- A fault of the service. -/
  | broken
  deriving Inhabited

namespace Response

def status : Response → Nat
  | answer _ => 200
  | done => 204
  | refused reason => reason.status
  | broken => 500

/-- The document of the response to a request of a method. A response to HEAD has none. -/
def document? (m : Method) : Response → Option Value
  | answer document => some document
  | refused reason => if m = .head then none else some (.ofFields [("detail", reason.detail)])
  | _ => none

/-- The text that stands for the document where the service is at fault. -/
def faultText : String := "Internal Server Error"

/-- Refuses a request. A detail that no document can hold is a fault. -/
def refuse (reason : Rejection) : Response :=
  if Json.isFinite reason.detail then .refused reason else .broken

/-- Answers with the document of a value. -/
def ofValue (v : Value) : Response :=
  match Json.document v with
  | .ok document => .answer document
  | .error _ => .broken

end Response

end Stepwise
