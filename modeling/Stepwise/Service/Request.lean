import Stepwise.Text.Case
import Stepwise.Text.Percent
import Stepwise.Value.Compare

/-!
Requests to the service.
-/

namespace Stepwise

inductive Method where
  | get
  | head
  | post
  | put
  | delete
  /-- Any other method. -/
  | other
  deriving DecidableEq, Repr, Inhabited

def Method.ofName (s : String) : Method :=
  match Text.upperString s with
  | "GET" => .get
  | "HEAD" => .head
  | "POST" => .post
  | "PUT" => .put
  | "DELETE" => .delete
  | _ => .other

structure Request where
  method : Method
  /-- The path, without escapes. -/
  path : String
  /-- The named texts of the query. -/
  query : List (String × String) := []
  contentType : String := "application/json"
  body : String := ""
  /-- The id under which the client follows its request. -/
  correlation? : Option String := none
  deriving Inhabited

namespace Request

/-- The path and the query of an address. -/
def readAddress (address : String) : String × List (String × String) :=
  let path := address.toList.takeWhile (· != '?')
  (Text.Percent.decode path, Text.Percent.readQuery (address.toList.drop (path.length + 1)))

/-- The query as a mapping. Of texts with one name the last counts. -/
def parameters (r : Request) : Entries :=
  r.query.foldl (fun done q => Value.put done (.text q.1) (.text q.2)) []

/-- Does the content type say that the body is JSON? -/
def saysJson (r : Request) : Bool :=
  let kind := Text.lower (Text.trim (r.contentType.toList.takeWhile (· != ';')))
  match Text.splitAtText ['/'] kind.length kind with
  | [main, sub] =>
    String.ofList main == "application" &&
      (String.ofList sub == "json" || "+json".toList.isSuffixOf sub)
  | _ => false

end Request

end Stepwise
