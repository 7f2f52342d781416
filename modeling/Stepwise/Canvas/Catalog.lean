import Stepwise.Canvas.Endpoint

/-!
The catalog: every endpoint that a node of a canvas may select.
-/

namespace Stepwise.Catalog

open Endpoint (needed optional)

/-- The credential that the content platform asks for. -/
def accessToken : Param := needed "access_token" .text "OAuth access token"

def channelId : Param := needed "channel_id" .text "Channel ID"

/-- The endpoints, in the order in which they are offered. -/
def endpoints : List Endpoint := [
    { id := "youtube-channels", name := "Get Channel Info"
      description := "Fetch channel information and statistics"
      category := .platform
      inputs := [accessToken, channelId]
      outputs := [needed "channelData" .object "Channel information and stats"] },
    { id := "youtube-analytics", name := "Get Analytics Data"
      description := "Fetch channel analytics reports"
      category := .platform
      inputs := [accessToken, channelId]
      outputs := [
        needed "analyticsRows" .list "Analytics data rows",
        needed "columnHeaders" .list "Column definitions"] },
    { id := "youtube-videos", name := "Get Video Details"
      description := "Fetch details for a list of videos"
      category := .platform
      inputs := [accessToken, needed "video_ids" .list "Video IDs"]
      outputs := [needed "videoDetails" .list "Video information array"] },
    { id := "youtube-search", name := "Search YouTube"
      description := "Search videos, channels or playlists"
      category := .platform
      inputs := [accessToken, needed "query" .text "Search query"]
      outputs := [needed "searchResults" .list "Search results array"] },
    { id := "youtube-playlist-items", name := "Get Playlist Items"
      description := "List the videos of a playlist"
      category := .platform
      inputs := [accessToken, needed "playlist_id" .text "Playlist ID"]
      outputs := [needed "playlistItems" .list "Playlist entries"] },
    { id := "youtube-comment-threads", name := "Get Comment Threads"
      description := "List top-level comments of a video"
      category := .platform
      inputs := [accessToken, needed "video_id" .text "Video ID"]
      outputs := [needed "comments" .list "Top-level comments"] },
    { id := "youtube-captions", name := "Get Captions"
      description := "List caption tracks of a video"
      category := .platform
      inputs := [accessToken, needed "video_id" .text "Video ID"]
      outputs := [needed "captions" .list "Caption tracks"] },
    { id := "youtube-playlists", name := "Get Playlists"
      description := "List channel playlists"
      category := .platform
      inputs := [accessToken, channelId]
      outputs := [needed "playlists" .list "Playlists"] },
    { id := "youtube-subscriptions", name := "Get Subscriptions"
      description := "List channel subscriptions"
      category := .platform
      inputs := [accessToken, channelId]
      outputs := [needed "subscriptions" .list "Subscriptions"] },
    { id := "youtube-comments", name := "Get Comments"
      description := "List replies to a comment"
      category := .platform
      inputs := [accessToken, needed "parent_id" .text "Parent comment ID"]
      outputs := [needed "comments" .list "Comments"] },
    { id := "youtube-analytics-groups", name := "Get Analytics Groups"
      description := "List analytics groups"
      category := .platform
      inputs := [accessToken]
      outputs := [needed "groups" .list "Analytics groups"] },
    { id := "youtube-analytics-group-items", name := "Get Analytics Group Items"
      description := "List the items of an analytics group"
      category := .platform
      inputs := [accessToken, needed "group_id" .text "Group ID"]
      outputs := [needed "groupItems" .list "Group items"] },
    { id := "openai-chat", name := "AI Chat Completion"
      description := "Generate a chat completion"
      category := .completion, method := "POST"
      inputs := [needed "prompt" .text "User prompt", optional "system" .text "System message"]
      outputs := [needed "response" .text "AI generated response"] },
    { id := "openai-analysis", name := "Content Analysis"
      description := "Analyze content for sentiment, themes or keywords"
      category := .completion, method := "POST"
      inputs := [
        needed "content" .text "Content to analyze",
        (needed "analysis_type" .text "Type of analysis").withDefault (.text "themes")]
      outputs := [needed "analysis" .object "Analysis results"] },
    { id := "db-save-data", name := "Save to Database"
      description := "Persist data to a table"
      category := .database, method := "POST"
      inputs := [needed "table" .text "Table name", needed "data" .object "Data to save"]
      outputs := [needed "saved" .object "Saved data"] },
    { id := "db-query-data", name := "Query Database"
      description := "Query rows from a table"
      category := .database
      inputs := [
        needed "table" .text "Table name",
        optional "filters" .object "Query filters",
        (optional "limit" .number "Result limit").withDefault (.int 100)]
      outputs := [needed "results" .list "Query results"] },
    { id := "transform-data", name := "Transform Data"
      description := "Reshape data with an expression"
      category := .external
      inputs := [needed "data" .object "Input data to transform"]
      outputs := [needed "transformed" .object "Transformed data"] },
    { id := "http-request", name := "HTTP Request"
      description := "Generic HTTP request"
      category := .external
      inputs := [
        needed "url" .text "Request URL",
        (optional "method" .text "HTTP method").withDefault (.text "GET"),
        optional "headers" .object "Request headers",
        optional "body" .object "Request body"]
      outputs := [needed "response" .object "HTTP response"] }]

/-- The endpoint of an id. -/
def endpoint? (id : String) : Option Endpoint := endpoints.find? (·.id == id)

/-- The names under which the endpoints of the content platform are called. -/
def remoteNames : List (String × String) :=
  [("youtube-channels", "channels"), ("youtube-analytics", "analytics-reports"),
    ("youtube-videos", "videos"), ("youtube-search", "search"), ("youtube-playlists", "playlists"),
    ("youtube-playlist-items", "playlist-items"), ("youtube-subscriptions", "subscriptions"),
    ("youtube-comments", "comments"), ("youtube-comment-threads", "comment-threads"),
    ("youtube-captions", "captions"), ("youtube-analytics-groups", "analytics-groups"),
    ("youtube-analytics-group-items", "analytics-group-items")]

/-- The name under which an endpoint is called; its id where it has no other. -/
def remoteName (id : String) : String :=
  ((remoteNames.find? (·.1 == id)).map (·.2)).getD id

end Stepwise.Catalog
