import Stepwise.Proofs.Checked
import Stepwise.Proofs.Repository.Documents
import Stepwise.Proofs.Service.Upload

/-!
Refusals: a request that is refused leaves the service as it is. So the refused requests can be taken out
of any sequence of requests, and neither the answers to the others nor what the service comes to change.
-/

namespace Stepwise

/-! ### Responses that refuse -/

namespace Response

/-- Is a request refused? A fault of the service is no refusal. -/
def refuses : Response → Bool
  | refused _ => true
  | _ => false

theorem refuses_iff {response : Response} :
    response.refuses = true ↔ response.status ∈ [400, 404, 405, 422] := by
  cases response with
  | refused reason => cases reason <;> simp [refuses, status, Rejection.status]
  | _ => simp [refuses, status]

theorem refuses_ofValue (v : Value) : (ofValue v).refuses = false := by
  unfold ofValue
  split <;> rfl

end Response

namespace Service

variable {s : Service} {x : Response × Service} {h : Handled} {b : Body} {r : Request}

/-- A response that refuses comes with the service as it was. -/
def Spares (s : Service) (x : Response × Service) : Prop := x.1.refuses = true → x.2 = s

/-- What is done for a request is no refusal. -/
def Grants (h : Handled) : Prop := ∀ done, h = .ok done → done.1.refuses = false

theorem spares_of_granted (granted : x.1.refuses = false) : s.Spares x := by
  intro refused
  rw [granted] at refused
  cases refused

theorem spares_settle (grants : Grants h) : s.Spares (s.settle h) := by
  cases h with
  | ok done => exact spares_of_granted (grants done rfl)
  | error reason => exact fun _ => rfl

theorem refuses_say (s : Service) (v : Value) : (s.say v).1.refuses = false :=
  Response.refuses_ofValue v

theorem refuses_sayChecked (s : Service) (document : Checked Value) :
    (s.sayChecked document).1.refuses = false := by
  cases document <;> rfl

/-! ### What is done for each request -/

theorem grants_upload : Grants (s.upload b) := by
  intro done handled
  obtain ⟨u, -, handled⟩ := bind_eq_ok.mp handled
  split at handled
  · cases handled
    rfl
  · cases handled
  · cases handled
    exact refuses_say _ _

theorem grants_compile : Grants (s.compile b) := by
  intro done handled
  obtain ⟨d, -, handled⟩ := bind_eq_ok.mp handled
  split at handled
  · cases handled
  · split at handled
    · cases handled
      exact refuses_say _ _
    · cases handled
      exact refuses_say _ _

theorem grants_remove (id : String) : Grants (s.remove id) := by
  intro done handled
  simp only [remove] at handled
  split at handled
  · cases handled
    rfl
  · cases handled

theorem grants_require (name : String) :
    Grants ((s.require name).map fun w => s.say w.toDocument) := by
  intro done handled
  cases found : s.require name with
  | error reason =>
      rw [found] at handled
      cases handled
  | ok w =>
      rw [found] at handled
      cases handled
      exact refuses_say _ _

theorem grants_listRuns : Grants (s.listRuns r) := by
  intro done handled
  obtain ⟨l, -, handled⟩ := bind_eq_ok.mp handled
  cases handled
  exact refuses_sayChecked _ _

theorem grants_findRun (id : String) : Grants (s.findRun id) := by
  intro done handled
  unfold findRun at handled
  split at handled
  · cases handled
  · cases handled
    exact refuses_sayChecked _ _

/-- A run is started when nothing is left to refuse. -/
theorem spares_trigger (name : String) : s.Spares (s.trigger name b).value := by
  unfold trigger
  split
  · exact fun _ => rfl
  · apply spares_of_granted
    simp only [bind, pure]
    split
    · rfl
    · exact refuses_sayChecked _ _

theorem spares_serve (route : Route) : s.Spares (s.serve r route).value := by
  cases route with
  | greeting => exact spares_of_granted (refuses_say s _)
  | health => exact spares_of_granted (refuses_say s _)
  | status => exact spares_of_granted (refuses_say s _)
  | workflows => exact spares_of_granted (refuses_say s _)
  | workflow name => exact spares_settle (grants_require name)
  | upload => exact spares_settle grants_upload
  | removal id => exact spares_settle (grants_remove id)
  | compilation => exact spares_settle grants_compile
  | trigger name => exact spares_trigger name
  | runs => exact spares_settle grants_listRuns
  | activeRuns => exact spares_of_granted (refuses_sayChecked _ _)
  | runStats => exact spares_of_granted (refuses_say s _)
  | run id => exact spares_settle (grants_findRun id)

theorem spares_respond (s : Service) (r : Request) : s.Spares (s.respond r).value := by
  unfold respond
  split
  · exact spares_serve _
  · exact fun _ => rfl
  · exact fun _ => rfl

theorem response_handle (s : Service) (r : Request) :
    (s.handle r).value.1.response = (s.respond r).value.1 := rfl

/-- A request that is refused leaves the service as it is. -/
theorem handle_of_refused (refused : (s.handle r).value.1.response.refuses = true) :
    (s.handle r).value.2 = s :=
  spares_respond s r refused

/-! ### Sequences of requests -/

/-- The replies to requests, one after the other, and the service after them. -/
def handleAll (s : Service) : List Request → List Reply × Service
  | [] => ([], s)
  | r :: rest =>
    let (reply, next) := (s.handle r).value
    let (replies, last) := next.handleAll rest
    (reply :: replies, last)

/-- The requests that are not refused when their turn comes. -/
def granted (s : Service) : List Request → List Request
  | [] => []
  | r :: rest =>
    let (reply, next) := (s.handle r).value
    if reply.response.refuses then next.granted rest else r :: next.granted rest

theorem handleAll_nil (s : Service) : (s.handleAll []).2 = s := rfl

theorem handleAll_single (s : Service) (r : Request) :
    (s.handleAll [r]).2 = (s.handle r).value.2 := rfl

theorem handleAll_cons (s : Service) (r : Request) (rest : List Request) : s.handleAll (r :: rest) =
    ((s.handle r).value.1 :: ((s.handle r).value.2.handleAll rest).1,
      ((s.handle r).value.2.handleAll rest).2) := rfl

theorem granted_cons (s : Service) (r : Request) (rest : List Request) : s.granted (r :: rest) =
    if (s.handle r).value.1.response.refuses then (s.handle r).value.2.granted rest
    else r :: (s.handle r).value.2.granted rest := rfl

/-- Without the refused requests the others are answered as before, and the service ends as before. -/
theorem handleAll_granted (s : Service) (requests : List Request) :
    s.handleAll (s.granted requests) =
      ((s.handleAll requests).1.filter (!·.response.refuses), (s.handleAll requests).2) := by
  induction requests generalizing s with
  | nil => rfl
  | cons r rest ih =>
      have later := ih (s.handle r).value.2
      rw [granted_cons, handleAll_cons s r rest, List.filter_cons]
      cases refused : (s.handle r).value.1.response.refuses with
      | true =>
          rw [handle_of_refused refused] at later ⊢
          exact later
      | false =>
          show s.handleAll (r :: _) = _
          rw [handleAll_cons, later]
          rfl

/-- A service that keeps a workflow and has started no run. -/
def stocked : Service :=
  { fresh with repository := ⟨[.ofDefinition (DependencyGraph.twoSteps [] ["a"])]⟩ }

/-- An upload that is to take the place of this workflow, but has no steps. -/
def stepless : Request :=
  { method := .put
    path := "/workflows"
    body := "\x7b\"definition\": \x7b\"id\": \"two-steps\", \"name\": \"none\", \"steps\": []\x7d\x7d" }

/-- The removal of a workflow that is not there. -/
def stray : Request := { method := .delete, path := "/workflows/b" }

theorem require_stepless : ∃ u, (Body.ofRequest stepless).require Upload.reader = .ok u ∧
    u.definition.steps = [] := by
  have holds : (((Body.ofRequest stepless).require Upload.reader).toOption.any fun u =>
      u.definition.steps.isEmpty) = true := by
    decide +kernel
  obtain ⟨u, read, none⟩ := exists_of_toOption_any holds
  exact ⟨u, read, List.isEmpty_iff.mp none⟩

theorem status_stepless : (stocked.handle stepless).value.1.response.status = 400 := by
  obtain ⟨u, read, none⟩ := require_stepless
  obtain ⟨document, answered⟩ := respond_upload (s := stocked) (by decide +kernel) read
  have refused : Admission.check u.definition = .error .empty := by
    rw [Admission.check, none]
    rfl
  rw [refused] at answered
  rw [response_handle, answered]
  rfl

theorem status_stray : (stocked.handle stray).value.1.response.status = 404 := by
  have routed : Routing.ofRequest stray = .found (.removal "b") := by decide +kernel
  have handled : (stocked.respond stray).value = stocked.settle (stocked.remove "b") := by
    rw [respond, routed]
    rfl
  rw [response_handle, handled]
  decide +kernel

end Service

end Stepwise
