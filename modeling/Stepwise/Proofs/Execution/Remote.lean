import Stepwise.Proofs.Execution.Asking
import Stepwise.Proofs.Execution.Engine
import Stepwise.Proofs.Workflow.Loading

/-!
Remote lists. The response to a request for videos, for the items of a playlist or for comments is brought
into flat form item by item. Each form is a table of columns, and each column says which names lead to its
value. A value is counted as the integer that it converts to and as zero if it converts to none, except for
an infinite number, which fails the step.
-/

namespace Stepwise

/-! ### Values behind names -/

namespace Value

/-- What a value holds behind names, one inside the other. -/
def behind? : List String → Value → Option Value
  | [], v => some v
  | name :: rest, dict entries => (lookupText? entries name).bind (behind? rest)
  | _ :: _, _ => none

def behind (v : Value) (path : List String) : Value := (v.behind? path).getD null

/-- What is behind names, or a mapping without members. -/
def partAt (v : Value) (path : List String) : Value := (v.behind? path).getD (dict [])

/-- There is a mapping behind the names, if there is anything. -/
def MappedAt (v : Value) (path : List String) : Prop :=
  ∀ w, v.behind? path = some w → ∃ entries, w = dict entries

def Endless (v : Value) : Prop := ∃ negative, v = float (.infinite negative)

/-- The integer that a value converts to, and zero for a value that does not convert. -/
def whole (v : Value) : Int :=
  match v.toInt with
  | .ok n => n
  | .error _ => 0

variable {v w : Value} {path : List String}

theorem behind?_append (path more : List String) (v : Value) :
    v.behind? (path ++ more) = (v.behind? path).bind (behind? more) := by
  induction path generalizing v with
  | nil => rfl
  | cons name rest ih =>
      cases v with
      | dict entries =>
          show (lookupText? entries name).bind (behind? (rest ++ more)) =
            ((lookupText? entries name).bind (behind? rest)).bind (behind? more)
          rw [Option.bind_assoc]
          congr 1
          funext w
          exact ih w
      | _ => rfl

theorem ofJson_of_behind? (held : v.OfJson) (found : v.behind? path = some w) : w.OfJson := by
  induction path generalizing v with
  | nil =>
      cases found
      exact held
  | cons name rest ih =>
      cases v with
      | dict entries =>
          obtain ⟨u, first, further⟩ := Option.bind_eq_some_iff.mp found
          exact ih (Schema.ofJson_of_lookupText? held first) further
      | _ => cases found

theorem ofJson_behind (held : v.OfJson) (path : List String) : (v.behind path).OfJson := by
  unfold behind
  cases found : v.behind? path with
  | none => exact .null
  | some w => exact ofJson_of_behind? held found

theorem truthy_of_ofJson (held : v.OfJson) : v.truthy = .ok v.isTrue := by
  cases held <;> rfl

end Value

/-! ### What fails exactly where something is endless -/

namespace Remote

open Value (dict list null)

/-- An infinite number is to be counted, which fails, or else the result is there. -/
structure GivesUnless {α : Type} (endless : Prop) (x : Checked α) (a : α) : Prop where
  fails : endless → x = .error .infiniteToInteger
  gives : ¬endless → x = .ok a

namespace GivesUnless

variable {α β : Type} {P Q : Prop} {x : Checked α} {f : α → Checked β} {a : α} {b : β}

theorem ok (a : α) : GivesUnless False (.ok a) a := ⟨False.elim, fun _ => rfl⟩

theorem congr (same : P ↔ Q) (gives : GivesUnless P x a) : GivesUnless Q x a :=
  ⟨fun endless => gives.fails (same.mpr endless), fun not => gives.gives (mt same.mp not)⟩

theorem step (first : x = .ok a) (next : GivesUnless P (f a) b) : GivesUnless P (x >>= f) b := by
  rw [first]
  exact next

theorem bind (first : GivesUnless P x a) (next : GivesUnless Q (f a) b) :
    GivesUnless (P ∨ Q) (x >>= f) b := by
  by_cases endless : P
  · rw [first.fails endless]
    exact ⟨fun _ => rfl, fun not => absurd (Or.inl endless) not⟩
  · exact congr (or_iff_right endless).symm (step (first.gives endless) next)

theorem map (first : GivesUnless P x a) (g : α → β) : GivesUnless P (x >>= fun a => .ok (g a)) (g a) :=
  congr (iff_of_eq (or_false P)) (first.bind (ok (g a)))

theorem mapM {items : List α} {f : α → Checked β} {g : α → β} {endless : α → Prop}
    (each : ∀ a ∈ items, GivesUnless (endless a) (f a) (g a)) :
    GivesUnless (∃ a ∈ items, endless a) (items.mapM f) (items.map g) := by
  induction items with
  | nil => exact congr (by simp) (ok [])
  | cons a rest ih =>
      obtain ⟨here, later⟩ := List.forall_mem_cons.mp each
      rw [List.mapM_cons]
      exact congr (List.exists_mem_cons_iff _ _ _).symm (here.bind ((ih later).map (g a :: ·)))

end GivesUnless

/-! ### Members -/

section Members

variable {item v : Value} {path : List String}

theorem memberOr_partAt (mapped : item.MappedAt path) (name : String) (default : Value) :
    memberOr (item.partAt path) name default = .ok ((item.behind? (path ++ [name])).getD default) := by
  rw [Value.behind?_append, Value.partAt]
  cases found : item.behind? path with
  | none => rfl
  | some w =>
      obtain ⟨entries, rfl⟩ := mapped w found
      show Except.ok ((Value.lookupText? entries name).getD default) =
        .ok (((Value.lookupText? entries name).bind some).getD default)
      rw [Option.bind_fun_some]

theorem part_partAt (mapped : item.MappedAt path) (name : String) :
    part (item.partAt path) name = .ok (item.partAt (path ++ [name])) := memberOr_partAt mapped name _

theorem member_partAt (mapped : item.MappedAt path) (name : String) :
    member (item.partAt path) name = .ok (item.behind (path ++ [name])) := memberOr_partAt mapped name _

theorem picked_partAt (mapped : item.MappedAt path) (names : List (String × String)) :
    picked (item.partAt path) names =
      .ok (names.map fun n => (n.1, item.behind (path ++ [n.2]))) := by
  induction names with
  | nil => rfl
  | cons n rest ih =>
      rw [picked, member_partAt mapped, ih]
      rfl

theorem family_of_readInt {s : String} {f : Fault} (failed : Value.readInt 10 s = .error f) :
    f.family = .value := by
  unfold Value.readInt at failed
  split at failed
  · cases failed
  · cases failed
    rfl
  · cases failed
    rfl

theorem gives_count (held : v.OfJson) : GivesUnless v.Endless (count v) v.whole := by
  unfold count Value.whole
  by_cases endless : v.Endless
  · obtain ⟨negative, rfl⟩ := endless
    exact ⟨fun _ => rfl, fun not => absurd ⟨negative, rfl⟩ not⟩
  · refine ⟨fun so => absurd so endless, fun _ => ?_⟩
    cases held with
    | float x =>
        cases x with
        | infinite negative => exact absurd ⟨negative, rfl⟩ endless
        | nan => rfl
        | finite => rfl
    | text s =>
        cases read : Value.readInt 10 s with
        | ok n => simp only [Value.toInt, read]
        | error f => simp only [Value.toInt, read, family_of_readInt read]
    | _ => rfl

theorem gives_counted (held : item.OfJson) (mapped : item.MappedAt path)
    (names : List (String × String)) :
    GivesUnless (∃ n ∈ names, (item.behind (path ++ [n.2])).Endless) (counted (item.partAt path) names)
      (names.map fun n => (n.1, .int (item.behind (path ++ [n.2])).whole)) := by
  induction names with
  | nil => exact .congr (by simp) (.ok [])
  | cons n rest ih =>
      rw [counted]
      refine .congr (List.exists_mem_cons_iff _ _ _).symm (.step (member_partAt mapped n.2) ?_)
      exact (gives_count (Value.ofJson_behind held _)).bind (ih.map _)

theorem orElse_of_ofJson {x : Checked Value} {w : Value} (held : v.OfJson) (other : x = .ok w) :
    orElse v x = .ok (if v.isTrue then v else w) := by
  rw [orElse, Value.truthy_of_ofJson held, other]
  show (if v.isTrue = true then Except.ok v else .ok w) = _
  split <;> rfl

end Members

/-! ### Forms -/

/-- How the value of a column comes from an item. -/
inductive Column where
  | copied (path : List String)
  /-- The first of two values that counts as true, or else the second. -/
  | either (first second : List String)
  | counted (path : List String)

namespace Column

def read (item : Value) : Column → Value
  | copied path => item.behind path
  | either first second =>
    if (item.behind first).isTrue then item.behind first else item.behind second
  | counted path => .int (item.behind path).whole

def Endless (item : Value) : Column → Prop
  | counted path => (item.behind path).Endless
  | _ => False

end Column

/-- The endpoints whose responses are lists with counts or positions in their items. -/
inductive Collection where
  | videos
  | playlistItems
  | comments

namespace Collection

def name : Collection → String
  | videos => "videos"
  | playlistItems => "playlist-items"
  | comments => "comment-threads"

def output : Collection → String
  | videos => "videoDetails"
  | playlistItems => "playlistItems"
  | comments => "comments"

def entry : Collection → Value → Checked Value
  | videos => videoEntry
  | playlistItems => playlistEntry
  | comments => commentEntry

/-- Where the nested parts of an item are. -/
def parts : Collection → List (List String)
  | videos => [["snippet"], ["statistics"], ["contentDetails"]]
  | playlistItems => [["snippet"], ["contentDetails"], ["snippet", "resourceId"]]
  | comments =>
    [["snippet"], ["snippet", "topLevelComment"], ["snippet", "topLevelComment", "snippet"]]

def columns : Collection → List (String × Column)
  | videos =>
    [("id", .copied ["id"]),
      ("title", .copied ["snippet", "title"]),
      ("description", .copied ["snippet", "description"]),
      ("thumbnails", .copied ["snippet", "thumbnails"]),
      ("publishedAt", .copied ["snippet", "publishedAt"]),
      ("duration", .copied ["contentDetails", "duration"]),
      ("viewCount", .counted ["statistics", "viewCount"]),
      ("likeCount", .counted ["statistics", "likeCount"]),
      ("commentCount", .counted ["statistics", "commentCount"])]
  | playlistItems =>
    [("videoId", .either ["contentDetails", "videoId"] ["snippet", "resourceId", "videoId"]),
      ("title", .copied ["snippet", "title"]),
      ("publishedAt", .copied ["snippet", "publishedAt"]),
      ("position", .counted ["snippet", "position"])]
  | comments =>
    [("id", .either ["snippet", "topLevelComment", "id"] ["id"]),
      ("author", .copied ["snippet", "topLevelComment", "snippet", "authorDisplayName"]),
      ("text", .copied ["snippet", "topLevelComment", "snippet", "textDisplay"]),
      ("likeCount", .counted ["snippet", "topLevelComment", "snippet", "likeCount"]),
      ("publishedAt", .copied ["snippet", "topLevelComment", "snippet", "publishedAt"]),
      ("replyCount", .counted ["snippet", "totalReplyCount"])]

def row (c : Collection) (item : Value) : Value :=
  .ofFields (c.columns.map fun column => (column.1, column.2.read item))

/-- A value that is to be counted is infinite. -/
def Endless (c : Collection) (item : Value) : Prop := ∃ column ∈ c.columns, column.2.Endless item

/-- The item and its nested parts are mappings, as far as they are there. -/
structure Shaped (c : Collection) (item : Value) : Prop where
  mapping : ∃ entries, item = dict entries
  parts : ∀ path ∈ c.parts, item.MappedAt path

/-- A text is JSON for a mapping with the items, which have their shape. -/
structure Listed (c : Collection) (body : String) (items : List Value) : Prop where
  parsed : ∃ entries, Json.parse body = .ok (dict entries) ∧
    ((dict entries).behind ["items"] = list items ∨ (dict entries).behind ["items"] = null ∧ items = [])
  shaped : ∀ item ∈ items, c.Shaped item

/-! ### Items -/

section Items

variable {c : Collection} {item : Value}

theorem Shaped.mappedAt (shaped : c.Shaped item) : item.MappedAt [] := by
  rintro w ⟨⟩
  exact shaped.mapping

theorem gives_videoEntry (held : item.OfJson) (shaped : videos.Shaped item) :
    GivesUnless (videos.Endless item) (videoEntry item) (videos.row item) := by
  have snippet : item.MappedAt ["snippet"] := shaped.parts _ (by decide)
  have statistics : item.MappedAt ["statistics"] := shaped.parts _ (by decide)
  have details : item.MappedAt ["contentDetails"] := shaped.parts _ (by decide)
  have counts := gives_counted held statistics (same ["viewCount", "likeCount", "commentCount"])
  unfold videoEntry
  refine .step (part_partAt shaped.mappedAt "snippet") ?_
  refine .step (part_partAt shaped.mappedAt "statistics") ?_
  refine .step (picked_partAt shaped.mappedAt _) ?_
  refine .step (picked_partAt snippet _) ?_
  refine .step (part_partAt shaped.mappedAt "contentDetails") ?_
  refine .step (picked_partAt details _) ?_
  exact .congr (by simp [Endless, columns, Column.Endless, same]) (counts.map _)

theorem gives_playlistEntry (held : item.OfJson) (shaped : playlistItems.Shaped item) :
    GivesUnless (playlistItems.Endless item) (playlistEntry item) (playlistItems.row item) := by
  have snippet : item.MappedAt ["snippet"] := shaped.parts _ (by decide)
  have details : item.MappedAt ["contentDetails"] := shaped.parts _ (by decide)
  have resource : item.MappedAt ["snippet", "resourceId"] := shaped.parts _ (by decide)
  have position := gives_counted held snippet [("position", "position")]
  have second : (do member (← part (item.partAt ["snippet"]) "resourceId") "videoId") =
      .ok (item.behind ["snippet", "resourceId", "videoId"]) :=
    bind_eq_ok.mpr ⟨_, part_partAt snippet "resourceId", member_partAt resource "videoId"⟩
  unfold playlistEntry
  refine .step (part_partAt shaped.mappedAt "snippet") ?_
  refine .step (part_partAt shaped.mappedAt "contentDetails") ?_
  refine .step (member_partAt details "videoId") ?_
  refine .step (orElse_of_ofJson (Value.ofJson_behind held _) second) ?_
  refine .step (picked_partAt snippet _) ?_
  exact .congr (by simp [Endless, columns, Column.Endless]) (position.map _)

theorem gives_commentEntry (held : item.OfJson) (shaped : comments.Shaped item) :
    GivesUnless (comments.Endless item) (commentEntry item) (comments.row item) := by
  have snippet : item.MappedAt ["snippet"] := shaped.parts _ (by decide)
  have top : item.MappedAt ["snippet", "topLevelComment"] := shaped.parts _ (by decide)
  have inner : item.MappedAt ["snippet", "topLevelComment", "snippet"] := shaped.parts _ (by decide)
  have likes := gives_counted held inner [("likeCount", "likeCount")]
  have replies := gives_counted held snippet [("replyCount", "totalReplyCount")]
  unfold commentEntry
  refine .step (part_partAt shaped.mappedAt "snippet") ?_
  refine .step (part_partAt snippet "topLevelComment") ?_
  refine .step (part_partAt top "snippet") ?_
  refine .step (member_partAt top "id") ?_
  refine .step (orElse_of_ofJson (Value.ofJson_behind held _) (member_partAt shaped.mappedAt "id")) ?_
  refine .step (picked_partAt inner _) ?_
  exact .congr (by simp [Endless, columns, Column.Endless])
    (likes.bind (.step (picked_partAt inner _) (replies.map _)))

theorem gives_entry (held : item.OfJson) (shaped : c.Shaped item) :
    GivesUnless (c.Endless item) (c.entry item) (c.row item) := by
  cases c with
  | videos => exact gives_videoEntry held shaped
  | playlistItems => exact gives_playlistEntry held shaped
  | comments => exact gives_commentEntry held shaped

end Items

/-! ### Lists -/

/-- What a response is brought into. -/
def form (c : Collection) (data : Value) : Checked Fields := do
  let items ← itemsUnder data "items"
  return [(c.output, list (← items.mapM c.entry))]

section Lists

variable {c : Collection} {body : String} {items : List Value}

theorem itemsUnder_dict {entries : Entries} {name : String}
    (found : (dict entries).behind [name] = list items ∨ (dict entries).behind [name] = null ∧ items = []) :
    itemsUnder (dict entries) name = .ok items := by
  have mapped : (dict entries).MappedAt [] := by
    rintro w ⟨⟩
    exact ⟨entries, rfl⟩
  have read : member (dict entries) name = .ok ((dict entries).behind [name]) := member_partAt mapped name
  rw [itemsUnder, read]
  rcases found with some | ⟨none, rfl⟩
  · rw [some]
    cases items <;> rfl
  · rw [none]
    rfl

theorem Listed.gives_form (listed : c.Listed body items) :
    ∃ data, Json.parse body = .ok data ∧
      GivesUnless (∃ item ∈ items, c.Endless item) (c.form data) [(c.output, list (items.map c.row))] := by
  obtain ⟨entries, read, found⟩ := listed.parsed
  have held : ((dict entries).behind ["items"]).OfJson :=
    Value.ofJson_behind (Json.ofJson_of_parse read) _
  have inside : ∀ item ∈ items, item.OfJson := by
    rcases found with some | ⟨-, rfl⟩
    · rw [some] at held
      cases held with
      | list all => exact all
    · exact List.forall_mem_nil _
  refine ⟨dict entries, read, .step (itemsUnder_dict found) ?_⟩
  exact .map (.mapM fun item member => gives_entry (inside item member) (listed.shaped item member)) _

end Lists

end Collection

/-! ### Responses -/

/-- If data comes back from a fetch, the result is what becomes of the data. -/
def Brings {α : Type} (w : World) (form : Value → Checked α) (x : Asked α) : Prop :=
  ∀ sent ∈ x.run.trace.fetches, ∀ status reason body data,
    w.fetch sent = .response status reason body → status < 400 → Json.parse body = .ok data →
      x.run.value = (Asked.checked (form data)).run.value

section Responses

open Asked

variable {α β : Type} {w : World} {form : Value → Checked β}

theorem Brings.of_quiet {x : Asked β} (quiet : Quiet x) : Brings w form x := by
  intro sent asked
  rw [quiet.trace.1] at asked
  cases asked

theorem Brings.after {x : Asked α} {f : α → Asked β} (quiet : Quiet x)
    (next : ∀ a, Brings w form (f a)) : Brings w form (x >>= f) := by
  intro sent asked
  rw [trace_bind, Trace.fetches_append, quiet.trace.1, List.nil_append] at asked
  rw [value_bind]
  cases done : x.run.value with
  | ok a =>
      rw [done] at asked
      exact next a sent asked
  | error e =>
      rw [done] at asked
      cases asked

theorem Brings.guard {c : Prop} [Decidable c] {e : StepError} {rest : Unit → Asked β}
    (next : ∀ u, Brings w form (rest u)) : Brings w form (if c then throw e >>= rest else rest ()) := by
  split
  · exact .after (quiet_throw e) next
  · exact next ()

theorem Brings.into {x : Asked Value} (brings : Brings w .ok x) (form : Value → Checked β) :
    Brings w form (x >>= fun data => checked (form data)) := by
  intro sent asked status reason body data answered fine read
  rw [trace_bind, Trace.fetches_append] at asked
  have first : sent ∈ x.run.trace.fetches := by
    rcases List.mem_append.mp asked with first | later
    · exact first
    · cases done : x.run.value with
      | ok v =>
          rw [done] at later
          change sent ∈ (checked (form v)).run.trace.fetches at later
          rw [(quiet_checked _).trace.1] at later
          cases later
      | error e =>
          rw [done] at later
          cases later
  rw [value_bind, brings sent first status reason body data answered fine read]
  rfl

theorem Brings.of_asks {request : Fetch} {f : FetchReply → Asked β} (quiet : ∀ reply, Quiet (f reply))
    (formed : ∀ status reason body data, status < 400 → Json.parse body = .ok data →
      (f (.response status reason body)).run.value = (checked (form data)).run.value) :
    Brings w form (ExceptT.lift (w.asks request) >>= f) := by
  intro sent asked status reason body data answered fine read
  rw [trace_bind, Trace.fetches_append] at asked
  change sent ∈ [request] ++ (f (w.fetch request)).run.trace.fetches at asked
  rw [(quiet _).trace.1, List.append_nil, List.mem_singleton] at asked
  rw [value_bind]
  change (f (w.fetch request)).run.value = _
  rw [← asked, answered, formed status reason body data fine read]

/-! ### Requests for lists -/

variable (w) (token : Value) (inputs params : Fields)

theorem brings_get (url : String) : Brings w .ok (get w url token params) := by
  refine .after (quiet_checked _) fun shown => .of_asks (fun reply => ?_) ?_
  · split
    · exact quiet_throw _
    · split
      · exact quiet_throw _
      · split
        · exact quiet_pure _
        · exact quiet_throw _
  · intro status reason body data fine read
    simp only [if_neg (Int.not_le.mpr fine), read]
    rfl

theorem brings_videos : Brings w Collection.videos.form (videos w token inputs params) := by
  refine .after (quiet_checked _) fun ids => ?_
  split
  · exact .of_quiet (quiet_pure _)
  · exact .after (quiet_checked _) fun joined => (brings_get w token _ _).into _

theorem brings_playlistItems :
    Brings w Collection.playlistItems.form (playlistItems w token inputs params) :=
  .after (quiet_checked _) fun _ => .after (quiet_checked _) fun _ => .guard fun _ =>
    (brings_get w token _ _).into _

theorem brings_comments : Brings w Collection.comments.form (comments w token inputs params) :=
  .after (quiet_videoId inputs params _) fun _ => (brings_get w token _ _).into _

theorem brings_call {c : Collection} {config : RemoteConfig} (named : config.endpoint = c.name) :
    Brings w c.form (call w config inputs) := by
  refine .after (quiet_checked _) fun given => .guard fun _ => ?_
  rw [named]
  cases c with
  | videos => exact brings_videos w _ inputs _
  | playlistItems => exact brings_playlistItems w _ inputs _
  | comments => exact brings_comments w _ inputs _

end Responses

/-! ### Attempts -/

/-- A step that asks for a list and receives one in its form has one row for each item, in order, unless
an infinite number is to be counted. Then the step fails. -/
theorem attempt_of_listed (c : Collection) {w : World} {ctx : Context} {s : Step} {config : RemoteConfig}
    {sent : Fetch} {status : Int} {reason body : String} {items : List Value}
    (planned : Plan.ofStep s = .remote config) (named : config.endpoint = c.name)
    (asked : sent ∈ (s.attempt w ctx).trace.fetches)
    (answered : w.fetch sent = .response status reason body) (fine : 200 ≤ status ∧ status < 300)
    (listed : c.Listed body items) :
    ((∀ item ∈ items, ¬c.Endless item) →
      (s.attempt w ctx).value = .ok ⟨s.id, .completed [(c.output, list (items.map c.row))]⟩) ∧
    ((∃ item ∈ items, c.Endless item) →
      (s.attempt w ctx).value = .ok ⟨s.id, .failed "cannot convert float infinity to integer"⟩) := by
  obtain ⟨data, read, gives⟩ := listed.gives_form
  rw [Step.attempt] at asked ⊢
  rcases trace_attempt_cases w ctx s with ⟨inputs, registered, resolved, asks⟩ | none
  · rw [asks, planned, Plan.execute, Asked.trace_map] at asked
    have brought := brings_call w inputs named sent asked status reason body data answered
      (Int.lt_trans fine.2 (by decide)) read
    rw [attempt_of_resolved registered resolved, planned, Plan.execute]
    constructor
    · intro finite
      rw [gives.gives (by simpa using finite)] at brought
      have done : (Fields.entries <$> call w config inputs).run.value =
          .ok (Fields.entries [(c.output, list (items.map c.row))]) := by
        rw [Asked.value_map, brought]
        rfl
      rw [settle_of_ok done]
      rfl
    · intro endless
      rw [gives.fails endless] at brought
      have failed : (Fields.entries <$> call w config inputs).run.value =
          .error (.fault .infiniteToInteger) := by
        rw [Asked.value_map, brought]
        rfl
      rw [settle_of_error failed]
      rfl
  · rw [none] at asked
    cases asked

/-- A world that answers every fetch with a text. -/
def answering (body : String) : World := { Engine.silent with fetch := fun _ => .response 200 "OK" body }

/-- A step that asks for one video. -/
def watching : Step :=
  { id := "watch"
    kind := StepKind.remote.name
    inputs := [("access_token", .text "t"), ("video_ids", .text "a")]
    config := [("endpoint", .text "videos")] }

theorem ofStep_watching : Plan.ofStep watching = .remote { endpoint := "videos" } := by
  rw [Plan.ofStep]
  rfl

/-- A video of which only counts are known. -/
def counting (counts : Fields) : Value := .ofFields [("statistics", .ofFields counts)]

theorem shaped_counting (counts : Fields) : Collection.videos.Shaped (counting counts) := by
  refine ⟨⟨_, rfl⟩, ?_⟩
  have lookups : (counting counts).behind? ["snippet"] = none ∧
      (counting counts).behind? ["statistics"] = some (.ofFields counts) ∧
      (counting counts).behind? ["contentDetails"] = none := ⟨rfl, rfl, rfl⟩
  intro path member w found
  simp only [Collection.parts, List.mem_cons, List.not_mem_nil, or_false] at member
  rcases member with rfl | rfl | rfl
  · rw [lookups.1] at found
    cases found
  · rw [lookups.2.1] at found
    cases found
    exact ⟨_, rfl⟩
  · rw [lookups.2.2] at found
    cases found

def mixed : String :=
  "\x7b\"items\": [\x7b\"statistics\": \x7b\"viewCount\": \"12\", \"likeCount\": NaN\x7d\x7d]\x7d"

theorem listed_mixed : Collection.videos.Listed mixed
    [counting [("viewCount", .text "12"), ("likeCount", .float .nan)]] where
  parsed := by
    refine ⟨[(.text "items", list [counting [("viewCount", .text "12"), ("likeCount", .float .nan)]])],
      ?_, Or.inl rfl⟩
    simp only [Json.parse, mixed, String.reduceToList]
    rfl
  shaped := List.forall_mem_singleton.mpr (shaped_counting _)

/-- Texts of numbers are counted, and what is no number counts as zero. -/
theorem attempt_of_listed_mixed :
    ∃ row, (watching.attempt (answering mixed) {}).value =
        .ok ⟨"watch", .completed [("videoDetails", list [dict row])]⟩ ∧
      Value.lookupText? row "viewCount" = some (.int 12) ∧
      Value.lookupText? row "likeCount" = some (.int 0) := by
  have one : (watching.attempt (answering mixed) {}).trace.fetches ≠ [] := by
    rw [Step.attempt, ofStep_watching]
    rintro ⟨⟩
  obtain ⟨sent, asked⟩ := List.exists_mem_of_ne_nil _ one
  obtain ⟨done, -⟩ := attempt_of_listed .videos ofStep_watching rfl asked rfl (by decide) listed_mixed
  refine ⟨_, done ?_, rfl, rfl⟩
  rw [List.forall_mem_singleton]
  simp only [Collection.Endless, Collection.columns, List.exists_mem_cons_iff, Column.Endless, false_or,
    List.not_mem_nil, false_and, exists_false, or_false]
  rintro (⟨_, ⟨⟩⟩ | ⟨_, ⟨⟩⟩ | ⟨_, ⟨⟩⟩)

def overflowing : String :=
  "\x7b\"items\": [\x7b\"statistics\": \x7b\"viewCount\": 1e999\x7d\x7d]\x7d"

/-- A number beyond the greatest one is read as infinite, and the step fails that is to count it. -/
theorem overflowing_count_fails :
    (∃ items, Collection.videos.Listed overflowing items) ∧
      (watching.attempt (answering overflowing) {}).trace.fetches.length = 1 ∧
      (watching.attempt (answering overflowing) {}).value.toOption.bind StepResult.failure? =
        some "cannot convert float infinity to integer" := by
  refine ⟨⟨[counting [("viewCount", .float (.infinite false))]], ?_, ?_⟩, ?_, ?_⟩
  · refine ⟨[(.text "items", list [counting [("viewCount", .float (.infinite false))]])], ?_, Or.inl rfl⟩
    simp only [Json.parse, overflowing, String.reduceToList]
    rfl
  · exact List.forall_mem_singleton.mpr (shaped_counting _)
  · decide +kernel
  · decide +kernel

end Remote

end Stepwise
