import Metasearch.Source.Basic

/-!
# The built-in sources

Four web search engines and a local SearXNG instance for web pages, that instance again for
pictures and films, and a news search feed. Repositories and discussion groups can be added by
name.

## Main definitions

* `google`, `brave`, `duckduckgo`, `bing`, `searx`, `googleNews`, `reddit`: single sources.
* `searxCategory`, `githubReleases`, `githubIssues`, `subreddit`: families of sources.
* `standard`: what is asked when no settings say otherwise.
-/

namespace Metasearch.Catalog

/-- A weight given in tenths. -/
def tenths (n : Nat) : Double := Double.ofDecimal false n (-1)

/-- A second in milliseconds. -/
def second : Nat := 1000

/-- A request of a URL with parameters. -/
def asking (url : String) (params : List (String × String)) : Template :=
  (Template.ofUrl url).withParams params

/-- Web search by Google. -/
def google : Source :=
  { Source.make "google" .google
      (asking "https://www.google.com/search" [("q", Template.terms)]) with
    name := "Google", weight := tenths 15, paging := true, minInterval := some second }

/-- Web search by Brave. -/
def brave : Source :=
  { Source.make "brave" .brave
      (asking "https://search.brave.com/search" [("q", Template.terms), ("source", "web")]) with
    name := "Brave", paging := true }

/-- Web search by DuckDuckGo. -/
def duckduckgo : Source :=
  { Source.make "duckduckgo" .duckduckgo
      (asking "https://html.duckduckgo.com/html/" [("q", Template.terms)]) with
    name := "DuckDuckGo", weight := tenths 11, paging := true, minInterval := some second }

/-- Web search by Bing. -/
def bing : Source :=
  { Source.make "bing" .bing
      (asking "https://www.bing.com/search" [("q", Template.terms)]) with
    name := "Bing", paging := true }

/-- One category of a local SearXNG instance. -/
def searxCategory (id : String) (category : Category) : Source :=
  { Source.make id .searx
      (asking "http://localhost:8888/search"
        [("q", Template.terms), ("format", "json"), ("categories", category.name)]) with
    name := "SearXNG", categories := [category], paging := true }

/-- Web search by a local SearXNG instance. -/
def searx : Source := searxCategory "searx" .general

/-- News search by Google News. -/
def googleNews : Source :=
  { Source.make "google_news" .feed
      (asking "https://news.google.com/rss/search"
        [("q", Template.terms), ("hl", Template.language)]) with
    name := "Google News", categories := [.news] }

/-- A repository's name with hyphens for slashes. -/
def hyphenated (repository : String) : String :=
  String.ofList (repository.toList.map fun c => if c = '/' then '-' else c)

/-- The releases of a GitHub repository. -/
def githubReleases (repository : String) : Source :=
  { Source.make ("github-releases-" ++ hyphenated repository) .githubReleases
      (asking ("https://api.github.com/repos/" ++ repository ++ "/releases") []) with
    name := "GitHub - " ++ repository, categories := [.code], minInterval := some second }

/-- The open issues of a GitHub repository. -/
def githubIssues (repository : String) : Source :=
  { Source.make ("github-issues-" ++ hyphenated repository) .githubIssues
      (asking ("https://api.github.com/repos/" ++ repository ++ "/issues")
        [("state", "open"), ("sort", "created"), ("per_page", "5")]) with
    name := "GitHub Issues - " ++ repository, categories := [.code], minInterval := some second }

/-- Search in all of Reddit. -/
def reddit : Source :=
  { Source.make "reddit" .reddit
      (asking "https://www.reddit.com/search.json" [("q", Template.terms), ("limit", "10")]) with
    name := "Reddit", categories := [.discussion], minInterval := some (2 * second) }

/-- One group of Reddit in a given order. -/
def subreddit (group order : String) (limit : Nat) : Source :=
  { Source.make ("reddit-" ++ Text.lowered group) .reddit
      (asking ("https://www.reddit.com/r/" ++ group ++ "/" ++ order ++ ".json")
        [("limit", toString limit)]) with
    name := "Reddit - r/" ++ group, categories := [.discussion], minInterval := some (2 * second) }

/-- What is asked when no settings say otherwise. -/
def standard : List Source :=
  [google, brave, duckduckgo, bing, searx, searxCategory "searx-images" .images,
    searxCategory "searx-videos" .videos, googleNews]

end Metasearch.Catalog
