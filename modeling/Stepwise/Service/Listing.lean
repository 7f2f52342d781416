import Stepwise.Execution.History
import Stepwise.Service.Response

/-!
Listings of runs: which runs a client asks for, and the page of the history that it gets.
-/

namespace Stepwise

open Schema

/-- What a client asks for of the history. -/
structure Listing where
  limit : Int := History.pageSize
  offset : Int := 0
  workflow : Option String := none
  status : Option RunStatus := none
  deriving Inhabited

namespace Listing

/-- The greatest number of runs on a page. -/
def maxLimit : Int := 1000

def ofEntries (entries : Entries) : Loaded Listing :=
  Listing.mk <$> field entries "limit" History.pageSize (integerIn 1 (some maxLimit)) <*>
    field entries "offset" 0 (integerIn 0 none) <*>
    field entries "workflow_id" none (optional text) <*>
    field entries "status" none (optional (choice RunStatus.options))

/-- What the query of a request asks for. -/
def ofRequest (r : Request) : Except Rejection Listing :=
  match ofEntries r.parameters with
  | .ok l => .ok l
  | .bad issues => .error (.invalid (issues.map (Complaint.ofIssue "query")))

/-- The workflow asked for. An empty id asks for none. -/
def workflow? (l : Listing) : Option String := l.workflow.filter (· != "")

/-- Is anything asked of the runs themselves? -/
def isFiltered (l : Listing) : Bool := l.workflow?.isSome || l.status.isSome

/-- Is a run among those asked for? -/
def accepts (l : Listing) (r : Run) : Bool :=
  l.workflow?.all (· == r.workflow) && l.status.all (· == r.status)

/-- All runs of a history that are asked for, the latest first. -/
def accepted (l : Listing) (h : History) : List Run :=
  (h.page h.capacity).filter l.accepts

/-- How many runs are asked for, and those on the page. -/
def page (l : Listing) (h : History) : Nat × List Run :=
  if l.isFiltered then
    let found := l.accepted h
    (found.length, History.between found l.offset (l.offset + l.limit))
  else (h.size, h.page l.limit l.offset)

end Listing

end Stepwise
