import Stepwise.Execution.World
import Stepwise.Json.Reading
import Stepwise.Reference.Lookup
import Stepwise.Text.Search
import Stepwise.Workflow.Config

/-!
Remote calls: each endpoint is one request to the content platform, whose response is brought into
flat form.
-/

namespace Stepwise.Remote

open Value (int text list null)

def dataUrl : String := "https://www.googleapis.com/youtube/v3"

def analyticsUrl : String := "https://youtubeanalytics.googleapis.com/v2"

/-- The days that a report reaches back where none are given. -/
def defaultDays : Int := 90

/-! ### Values -/

/-- A number as an integer; what is no number counts as zero. -/
def count (v : Value) : Checked Int :=
  match v.toInt with
  | .ok n => .ok n
  | .error f =>
    match f.family with
    | .type | .value => .ok 0
    | _ => .error f

/-- The items that count as true. -/
def trueItems : List Value → Checked (List Value)
  | [] => .ok []
  | v :: rest => do
    let keep ← v.truthy
    let others ← trueItems rest
    return if keep then v :: others else others

/-- A value as a list: nothing for null, the parts between commas of a text, the true items of a
list, and else the value alone. -/
def asList (v : Value) : Checked (List Value) :=
  match v with
  | null => .ok []
  | _ =>
    match v.sequence?, v.textOf? with
    | some items, _ => trueItems items
    | none, some s =>
      let parts := (Text.splitAtText [','] (s.length + 1) s.toList).map Text.trim
      .ok ((parts.filter (!·.isEmpty)).map fun p => text (String.ofList p))
    | none, none => .ok [v]

/-- The member of a mapping, or a default. Nothing else has members. -/
def memberOr (v : Value) (name : String) (default : Value) : Checked Value :=
  match v with
  | .dict entries => .ok ((Value.lookupText? entries name).getD default)
  | _ => .error (.noAttribute v.typeName "get")

def member (v : Value) (name : String) : Checked Value := memberOr v name null

/-- A member that is a mapping where it is missing. -/
def part (v : Value) (name : String) : Checked Value := memberOr v name (.dict [])

/-- The first of two values that counts as true, or else the second. -/
def orElse (v : Value) (w : Checked Value) : Checked Value := do
  if ← v.truthy then return v else w

/-- Members of a mapping under new names. -/
def picked (v : Value) : List (String × String) → Checked Fields
  | [] => .ok []
  | (name, source) :: rest => do
    let found ← member v source
    return (name, found) :: (← picked v rest)

/-- Counts among the members of a mapping, under new names. -/
def counted (v : Value) : List (String × String) → Checked Fields
  | [] => .ok []
  | (name, source) :: rest => do
    let n ← count (← member v source)
    return (name, int n) :: (← counted v rest)

/-- Members that keep their names. -/
def same (names : List String) : List (String × String) := names.map fun n => (n, n)

/-- The items under a name; a value that does not count as true has none. -/
def itemsUnder (v : Value) (name : String) : Checked (List Value) := do
  let found ← member v name
  if ← found.truthy then found.allItems else return []

/-! ### Requests -/

/-- The parameters of a request without those that are null. -/
def withoutNulls (params : Fields) : Fields :=
  params.filter fun p =>
    match p.2 with
    | .null => false
    | _ => true

/-- A parameter of the configuration, or a default. -/
def setting (params : Fields) (name : String) (default : Value) : Value :=
  (Fields.get? params name).getD default

/-- Fetches data and reads the body of the response. -/
def get (w : World) (url : String) (token : Value) (params : Fields) : Asked Value := do
  let shownToken ← Asked.checked token.shown
  let headers := [("Authorization", "Bearer " ++ shownToken), ("Accept", "application/json")]
  let reply ← ExceptT.lift (w.asks ⟨url, withoutNulls params, headers, w.timeout⟩)
  match reply with
  | .failure errorClass detail => throw (.requestFailed detail url errorClass)
  | .response status reason body =>
    if 400 ≤ status then throw (.badStatus status reason body url)
    else
      match Json.parse body with
      | .ok v => return v
      | .error e => throw (.fault e.fault)

/-! ### Endpoints -/

/-- The channel of an id, or the own channel. -/
def channel (w : World) (token : Value) (inputs params : Fields) : Asked Fields := do
  let id := Fields.getD inputs "channel_id"
  let chosen := if ← Asked.checked id.truthy then ("id", id) else ("mine", text "true")
  let query := [("part", setting params "part" (text "snippet,statistics")), chosen]
  let data ← get w (dataUrl ++ "/channels") token query
  let items ← Asked.checked (member data "items")
  if !(← Asked.checked items.truthy) then throw .noChannel
  Asked.checked do
    let first ← firstOf items
    let snippet ← part first "snippet"
    let statistics ← part first "statistics"
    let id ← picked first [("id", "id")]
    let facts ← picked snippet
      (same ["title", "description", "customUrl", "publishedAt", "thumbnails"])
    let counts ← counted statistics (same ["subscriberCount", "videoCount", "viewCount"])
    return [("channelData", .ofFields (id ++ facts ++ counts))]
where
  firstOf (items : Value) : Checked Value :=
    match items with
    | .dict entries =>
      match Value.lookup? entries (int 0) with
      | some v => .ok v
      | none => .error (.noKey "0")
    | .list (v :: _) => .ok v
    | .text s => .ok (text (String.ofList (s.toList.take 1)))
    | v => .error (.notSubscriptable v.typeName)

/-- One entry of a list of videos. -/
def videoEntry (video : Value) : Checked Value := do
  let snippet ← part video "snippet"
  let statistics ← part video "statistics"
  let id ← picked video [("id", "id")]
  let facts ← picked snippet (same ["title", "description", "thumbnails", "publishedAt"])
  let duration ← picked (← part video "contentDetails") [("duration", "duration")]
  let counts ← counted statistics (same ["viewCount", "likeCount", "commentCount"])
  return .ofFields (id ++ facts ++ duration ++ counts)

/-- The texts of values between commas. -/
def joinShown (vs : List Value) : Checked String := do
  return ",".intercalate (← vs.mapM Value.shown)

def videos (w : World) (token : Value) (inputs params : Fields) : Asked Fields := do
  let ids ← Asked.checked (asList (Fields.getD inputs "video_ids"))
  if ids.isEmpty then return [("videoDetails", list [])]
  let joined ← Asked.checked (joinShown ids)
  let data ← get w (dataUrl ++ "/videos") token
    [("part", setting params "part" (text "snippet,contentDetails,statistics")),
      ("id", text joined)]
  Asked.checked do
    let items ← itemsUnder data "items"
    return [("videoDetails", list (← items.mapM videoEntry))]

/-- One entry of a list of search results. -/
def searchEntry (item : Value) : Checked Value := do
  let id ← part item "id"
  let snippet ← part item "snippet"
  let chosen ← orElse (← member id "videoId") do
    orElse (← member id "channelId") (member id "playlistId")
  let kind ← picked id [("kind", "kind")]
  let facts ← picked snippet
    (same ["title", "description", "thumbnails", "publishedAt", "channelId", "channelTitle"])
  return .ofFields ([("id", chosen)] ++ kind ++ facts)

def search (w : World) (token : Value) (inputs params : Fields) : Asked Fields := do
  let query ← Asked.checked
    (orElse (Fields.getD inputs "query") (.ok (Fields.getD params "q")))
  let data ← get w (dataUrl ++ "/search") token
    [("part", text "snippet"), ("type", setting params "type" (text "video")),
      ("maxResults", setting params "maxResults" (int 50)), ("q", query),
      ("channelId", Fields.getD params "channelId"), ("order", Fields.getD params "order")]
  Asked.checked do
    let items ← itemsUnder data "items"
    return [("searchResults", list (← items.mapM searchEntry))]

/-- The greatest number of days that a span of time has. -/
def maxSpan : Nat := 999999999

/-- The day that lies a number of days before another one. -/
def daysBefore (today : Day) (days : Int) : Checked Day :=
  if maxSpan < days.natAbs then
    if -(Nat.pow 2 31) ≤ days ∧ days < Nat.pow 2 31 then
      .error (.dayCount ("days=" ++ Decimal.intString days ++
        "; must have magnitude <= 999999999"))
    else .error .intTooLargeForInt
  else
    let day := today.toDays - days
    if Day.inRange day then .ok (Day.ofDays day) else .error .dateRange

/-- The list under a name, or the empty list. -/
def listUnder (v : Value) (name : String) : Checked Value := do
  orElse (← member v name) (.ok (list []))

def analytics (w : World) (token : Value) (inputs params : Fields) : Asked Fields := do
  let channelId := Fields.getD inputs "channel_id"
  if !(← Asked.checked channelId.truthy) then throw (.needs .channel)
  let days ← Asked.checked (count (Fields.getD params "days"))
  let start ← Asked.checked (daysBefore w.today (if days = 0 then defaultDays else days))
  let shownId ← Asked.checked channelId.shown
  let data ← get w (analyticsUrl ++ "/reports") token
    [("ids", text ("channel==" ++ shownId)), ("startDate", text start.text),
      ("endDate", text w.today.text),
      ("metrics", setting params "metrics"
        (text "views,estimatedMinutesWatched,averageViewDuration")),
      ("dimensions", setting params "dimensions" (text "video")),
      ("sort", setting params "sort" (text "-views")),
      ("maxResults", setting params "maxResults" (int 200))]
  Asked.checked do
    let rows ← listUnder data "rows"
    return [("analyticsRows", rows), ("columnHeaders", ← listUnder data "columnHeaders")]

/-- One entry of a playlist. -/
def playlistEntry (item : Value) : Checked Value := do
  let snippet ← part item "snippet"
  let id ← orElse (← member (← part item "contentDetails") "videoId") do
    member (← part snippet "resourceId") "videoId"
  let facts ← picked snippet (same ["title", "publishedAt"])
  let position ← counted snippet [("position", "position")]
  return .ofFields ([("videoId", id)] ++ facts ++ position)

def playlistItems (w : World) (token : Value) (inputs params : Fields) : Asked Fields := do
  let id ← Asked.checked
    (orElse (Fields.getD inputs "playlist_id") (.ok (Fields.getD params "playlistId")))
  if !(← Asked.checked id.truthy) then throw (.needs .playlist)
  let data ← get w (dataUrl ++ "/playlistItems") token
    [("part", setting params "part" (text "snippet,contentDetails")), ("playlistId", id),
      ("maxResults", setting params "maxResults" (int 50))]
  Asked.checked do
    let items ← itemsUnder data "items"
    return [("playlistItems", list (← items.mapM playlistEntry))]

/-- The id of the video that is asked about. -/
def videoId (inputs params : Fields) (need : RemoteNeed) : Asked Value := do
  let id ← Asked.checked
    (orElse (Fields.getD inputs "video_id") (.ok (Fields.getD params "videoId")))
  if ← Asked.checked id.truthy then return id else throw (.needs need)

/-- One entry of a list of comments. -/
def commentEntry (thread : Value) : Checked Value := do
  let snippet ← part thread "snippet"
  let top ← part snippet "topLevelComment"
  let topSnippet ← part top "snippet"
  let id ← orElse (← member top "id") (member thread "id")
  let facts ← picked topSnippet [("author", "authorDisplayName"), ("text", "textDisplay")]
  let likes ← counted topSnippet [("likeCount", "likeCount")]
  let published ← picked topSnippet [("publishedAt", "publishedAt")]
  let replies ← counted snippet [("replyCount", "totalReplyCount")]
  return .ofFields ([("id", id)] ++ facts ++ likes ++ published ++ replies)

def comments (w : World) (token : Value) (inputs params : Fields) : Asked Fields := do
  let id ← videoId inputs params .commentVideo
  let data ← get w (dataUrl ++ "/commentThreads") token
    [("part", text "snippet"), ("videoId", id),
      ("maxResults", setting params "maxResults" (int 50)),
      ("order", setting params "order" (text "relevance"))]
  Asked.checked do
    let items ← itemsUnder data "items"
    return [("comments", list (← items.mapM commentEntry))]

/-- One entry of a list of caption tracks. -/
def captionEntry (track : Value) : Checked Value := do
  let snippet ← part track "snippet"
  let id ← picked track [("id", "id")]
  return .ofFields (id ++ (← picked snippet (same ["language", "name", "trackKind"])))

def captions (w : World) (token : Value) (inputs params : Fields) : Asked Fields := do
  let id ← videoId inputs params .captionVideo
  let data ← get w (dataUrl ++ "/captions") token [("part", text "snippet"), ("videoId", id)]
  Asked.checked do
    let items ← itemsUnder data "items"
    return [("captions", list (← items.mapM captionEntry))]

/-- How an endpoint is called, by its name. -/
def endpoints : List (String × (World → Value → Fields → Fields → Asked Fields)) :=
  [("channels", channel), ("videos", videos), ("search", search), ("analytics-reports", analytics),
    ("playlist-items", playlistItems), ("comment-threads", comments), ("captions", captions)]

/-- The outputs of a remote step. -/
def call (w : World) (config : RemoteConfig) (inputs : Fields) : Asked Fields := do
  let token := Fields.getD inputs "access_token"
  if !(← Asked.checked token.truthy) then throw .tokenMissing
  match endpoints.find? (·.1 == config.endpoint) with
  | some (_, endpoint) => endpoint w token inputs config.params
  | none => throw (.unsupportedEndpoint config.endpoint)

end Stepwise.Remote
