import Stepwise.Workflow.Basic

/-!
The workflows that every repository holds from the start.
-/

namespace Stepwise.Builtin

/-- Fetches the channel. -/
def fetchChannel : Step where
  id := "fetch-channel"
  kind := StepKind.name .remote
  name := "Fetch Channel Data"
  inputs := [
    ("access_token", .text "$input.access_token"),
    ("channel_id", .text "$input.channel_id")]
  outputs := ["channelData"]
  config := [
    ("endpoint", .text "channels"),
    ("params", .ofFields [("part", .text "snippet,statistics")])]

/-- Has a greeting written. -/
def greet : Step where
  id := "generate-greeting"
  kind := StepKind.name .completion
  name := "Generate Channel Greeting"
  inputs := [
    ("given_name", .text "$input.given_name"),
    ("channel_title", .text "$steps.fetch-channel.channelData.title"),
    ("subscriber_count", .text "$steps.fetch-channel.channelData.subscriberCount"),
    ("video_count", .text "$steps.fetch-channel.channelData.videoCount")]
  outputs := ["greeting"]
  config := [
    ("model", .text "gpt-4o-mini"),
    ("prompt_key", .text "collection_greeting"),
    ("system", .text "You are Neria, a warm, supportive YouTube coach."),
    ("max_tokens", .int 120)]
  dependencies := ["fetch-channel"]

/-- Puts the channel and the greeting together. -/
def formatOverview : Step where
  id := "format-output"
  kind := StepKind.name .script
  name := "Format Channel Overview"
  inputs := [
    ("channel_data", .text "$steps.fetch-channel.channelData"),
    ("greeting", .text "$steps.generate-greeting.greeting")]
  outputs := ["result"]
  config := [
    ("script", .text ("\x7b\"result\": \x7b\"channel\": \x7b\"id\": channel_data.id, \"title\": " ++
        "channel_data.title, \"description\": channel_data.description, \"subs\": " ++
        "channel_data.subscriberCount, \"subs_display\": " ++
        "format_number(channel_data.subscriberCount), \"views\": channel_data.viewCount, " ++
        "\"videoCount\": channel_data.videoCount, \"publishedAt\": " ++
        "channel_data.publishedAt\x7d, \"greeting\": greeting\x7d\x7d"))]
  dependencies := ["fetch-channel", "generate-greeting"]

/-- Fetches a channel and has a greeting written for it. -/
def channelOverview : Workflow where
  id := "channel-overview"
  name := "Channel Overview Analysis"
  description := "Fetch and analyze basic channel information with AI greeting"
  steps := [fetchChannel, greet, formatOverview]
  triggers := [{}]

/-- Looks for channels. -/
def searchCompetitors : Step where
  id := "search-competitors"
  kind := StepKind.name .remote
  name := "Search Competitor Channels"
  inputs := [("access_token", .text "$input.access_token"), ("query", .text "$input.search_query")]
  outputs := ["searchResults"]
  config := [
    ("endpoint", .text "search"),
    ("params", .ofFields [
      ("type", .text "channel"), ("maxResults", .int 10), ("order", .text "relevance")])]

/-- Looks for the videos that are seen most. -/
def fetchVideos : Step where
  id := "fetch-competitor-videos"
  kind := StepKind.name .remote
  name := "Get Competitor Top Videos"
  inputs := [("access_token", .text "$input.access_token"), ("query", .text "$input.search_query")]
  outputs := ["searchResults"]
  config := [
    ("endpoint", .text "search"),
    ("params", .ofFields [
      ("type", .text "video"), ("maxResults", .int 20), ("order", .text "viewCount")])]
  dependencies := ["search-competitors"]

/-- Has the titles of the videos analyzed. -/
def analyzeStrategies : Step where
  id := "analyze-competitor-strategies"
  kind := StepKind.name .completion
  name := "Analyze Competitor Strategies"
  inputs := [
    ("prompt", .text ("Analyze these competitor video titles and identify successful patterns: " ++
        "\x7b\x7bvideo_titles\x7d\x7d")),
    ("video_titles", .text "$steps.fetch-competitor-videos.searchResults.*.title")]
  outputs := ["strategyAnalysis"]
  config := [
    ("model", .text "gpt-4o-mini"),
    ("system_key", .text "competitor_strategy_system"),
    ("max_tokens", .int 200)]
  dependencies := ["fetch-competitor-videos"]

/-- Puts the channels next to the own one. -/
def comparePerformance : Step where
  id := "compare-performance"
  kind := StepKind.name .script
  name := "Compare Performance Metrics"
  inputs := [
    ("competitors", .text "$steps.search-competitors.searchResults"),
    ("my_channel_stats", .text "$input.my_channel_stats")]
  outputs := ["performanceComparison"]
  config := [
    ("script", .text ("\x7b\"performanceComparison\": \x7b" ++
        "\"myChannel\": my_channel_stats or \x7b\x7d, " ++
        "\"competitors\": sort_by(competitors, \"title\"), " ++
        "\"insights\": \x7b\"totalAnalyzed\": competitors | length, " ++
        "\"channelTitles\": competitors | map(attribute=\"title\") | list\x7d\x7d\x7d"))]
  dependencies := ["search-competitors"]

/-- Has recommendations written. -/
def recommend : Step where
  id := "generate-recommendations"
  kind := StepKind.name .completion
  name := "Generate Strategy Recommendations"
  inputs := [
    ("prompt", .text ("Based on this competitor analysis: \x7b\x7bstrategy_analysis\x7d\x7d and " ++
        "performance comparison: \x7b\x7bperformance_data\x7d\x7d, provide 3 actionable " ++
        "recommendations for improvement.")),
    ("strategy_analysis", .text "$steps.analyze-competitor-strategies.strategyAnalysis"),
    ("performance_data", .text "$steps.compare-performance.performanceComparison")]
  outputs := ["recommendations"]
  config := [
    ("model", .text "gpt-4o-mini"),
    ("system_key", .text "growth_recommendations_system"),
    ("max_tokens", .int 150)]
  dependencies := ["analyze-competitor-strategies", "compare-performance"]

/-- Looks for similar channels and has recommendations written. -/
def competitorAnalysis : Workflow where
  id := "competitor-analysis"
  name := "Competitor Analysis"
  description := "Analyze competitor channels and compare with your performance"
  steps := [searchCompetitors, fetchVideos, analyzeStrategies, comparePerformance, recommend]
  triggers := [{}]

def workflows : List Workflow := [channelOverview, competitorAnalysis]

end Stepwise.Builtin
