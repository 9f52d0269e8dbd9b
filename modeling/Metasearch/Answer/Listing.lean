import Metasearch.Json.Parser
import Metasearch.Record
import Metasearch.Source.Basic

/-!
# Answers in JSON

Three kinds of servers answer with JSON: search backends, repositories, and discussion boards.
An answer is read into the shape of its server first, and then into records.

## Main definitions

* `Hit`, `Release`, `Issue`, `Post`: the shapes.
* `readHits`, `readReleases`, `readIssues`, `readPosts`: the records of an answer.
-/

namespace Metasearch.Answer

open Metasearch.Text

/-- The value that an answer denotes. -/
def readJson {α : Type} (read : Data → Option α) (body : String) : Except Failure α :=
  match (Json.parse? body.toList).bind read with
  | some a => .ok a
  | none => .error (.answer .notJson)

/-- The first records, if there is a limit. -/
def atMost {α : Type} (limit : Option Nat) (items : List α) : List α :=
  match limit with
  | some n => items.take n
  | none => items

/-- The text, unless it is empty. -/
def nonempty (s : Option String) : Option String :=
  s.filter fun t => !t.isEmpty

/-- The instant of an optional timestamp. -/
def instant? (s : Option String) : Option Instant :=
  s.bind fun t => Instant.parse? t.toList

/-! ### Search backends -/

/-- One hit of a search backend. -/
structure Hit where
  /-- Its URL. -/
  url : String
  /-- Its title. -/
  title : String
  /-- Its excerpt. -/
  content : String
  /-- The engine that found it. -/
  engine : Option String
  /-- How well it fits. -/
  score : Option Double
  /-- Its category. -/
  category : Option String
  /-- When it was published. -/
  publishedDate : Option String
  /-- A small picture. -/
  thumbnail : Option String
  /-- The picture itself. -/
  picture : Option String

/-- The hit that data denotes. -/
def Hit.decode? (d : Data) : Option Hit := do
  let f ← d.fields? ["url", "title", "content", "engine", "score", "category", "publishedDate",
    "thumbnail", "img_src"]
  return {
    url := ← f.orElse? "url" Data.asText? ""
    title := ← f.orElse? "title" Data.asText? ""
    content := ← f.orElse? "content" Data.asText? ""
    engine := ← f.maybe? "engine" Data.asText?
    score := ← f.maybe? "score" Data.asFloat?
    category := ← f.maybe? "category" Data.asText?
    publishedDate := ← f.maybe? "publishedDate" Data.asText?
    thumbnail := ← f.maybe? "thumbnail" Data.asText?
    picture := ← f.maybe? "img_src" Data.asText? }

/-- The hits of an answer. -/
def decodeHits? (d : Data) : Option (List Hit) := do
  let f ← d.fields? ["results"]
  f.orElse? "results" (Data.asList? Hit.decode?) []

/-- The kind of a hit of a category. -/
def Hit.kind (h : Hit) : RecordKind :=
  match h.category with
  | some "images" => .image
  | some "videos" => .video
  | some "news" => .news
  | _ => .web

/-- The record of a hit. -/
def Hit.record (source : String) (h : Hit) : Record :=
  { Record.make h.url h.title h.content with
    source, kind := h.kind, published := instant? h.publishedDate
    extras := { Extras.none with thumbnail := h.thumbnail.or h.picture, engine := h.engine }
    relevance := h.score.filter Double.isFinite }

/-- The records of a search backend's answer: every hit with a URL. -/
def readHits (s : Source) (body : String) : Except Failure (List Record) :=
  (readJson decodeHits? body).map fun hits =>
    (hits.filter fun h => !h.url.isEmpty).map (Hit.record s.id)

/-! ### Repositories -/

/-- The login of an account. -/
def decodeLogin? (d : Data) : Option String := do
  let f ← d.fields? ["login"]
  f.orElse? "login" Data.asText? ""

/-- A release of a repository. -/
structure Release where
  /-- Its name. -/
  name : Option String
  /-- Its version. -/
  tag : String
  /-- Its page. -/
  url : String
  /-- What is new in it. -/
  body : Option String
  /-- When it was published. -/
  publishedAt : Option String
  /-- Who published it. -/
  author : Option String

/-- The release that data denotes. -/
def Release.decode? (d : Data) : Option Release := do
  let f ← d.fields? ["name", "tag_name", "html_url", "body", "published_at", "author"]
  return {
    name := ← f.maybe? "name" Data.asText?
    tag := ← f.required? "tag_name" Data.asText?
    url := ← f.required? "html_url" Data.asText?
    body := ← f.maybe? "body" Data.asText?
    publishedAt := ← f.maybe? "published_at" Data.asText?
    author := ← f.maybe? "author" decodeLogin? }

/-- The record of a release of a repository. -/
def Release.record (source repository : String) (r : Release) : Record :=
  let name := (r.name.filter fun n => !isBlank n.toList).getD r.tag
  { Record.make r.url ("New Release: " ++ name ++ " - " ++ repository) (r.body.getD "") with
    source, kind := .release, published := instant? r.publishedAt
    extras := { Extras.none with author := nonempty r.author, label := some r.tag } }

/-- An entry of an issue tracker. -/
structure Issue where
  /-- Its title. -/
  title : String
  /-- Its page. -/
  url : String
  /-- What it says. -/
  body : Option String
  /-- When it was opened. -/
  createdAt : Option String
  /-- Who opened it. -/
  user : Option String
  /-- Its labels. -/
  labels : List String
  /-- How many comments it has. -/
  comments : Option Nat
  /-- It proposes a change. -/
  isProposal : Bool

/-- The name of a label. -/
def decodeLabel? (d : Data) : Option String := do
  let f ← d.fields? ["name"]
  f.required? "name" Data.asText?

/-- Any value, as long as it denotes one throughout. -/
def asPresent? (d : Data) : Option Unit :=
  if d.isReadable then some () else none

/-- The issue that data denotes. -/
def Issue.decode? (d : Data) : Option Issue := do
  let f ← d.fields? ["title", "html_url", "body", "created_at", "user", "labels", "comments",
    "pull_request"]
  return {
    title := ← f.required? "title" Data.asText?
    url := ← f.required? "html_url" Data.asText?
    body := ← f.maybe? "body" Data.asText?
    createdAt := ← f.maybe? "created_at" Data.asText?
    user := ← f.maybe? "user" decodeLogin?
    labels := ← f.orElse? "labels" (Data.asList? decodeLabel?) []
    comments := ← f.maybe? "comments" Data.asNat?
    isProposal := (← f.maybe? "pull_request" asPresent?).isSome }

/-- The record of an issue of a repository. -/
def Issue.record (source repository : String) (i : Issue) : Record :=
  { Record.make i.url ("Issue: " ++ i.title ++ " - " ++ repository) (i.body.getD "") with
    source, kind := .issue, published := instant? i.createdAt
    extras :=
      { Extras.none with author := nonempty i.user, tags := i.labels, comments := i.comments } }

/-- The owner and name after the segment `repos`. -/
def ownerAndName? (segments : List (List Char)) : Option String :=
  match segments.dropWhile (· != "repos".toList) with
  | _ :: owner :: name :: _ => some (String.ofList (owner ++ '/' :: name))
  | _ => none

/-- The repository that a source asks about: two segments of its URL, or its display name. -/
def repositoryOf (s : Source) : String :=
  let found :=
    match Url.parse s.request.url.toList with
    | .ok u => ownerAndName? u.path.parts
    | .error _ => none
  found.getD s.displayName

/-- How many releases are taken when the configuration does not say. -/
def standardReleases : Nat := 5

/-- The records of a list of releases. -/
def readReleases (s : Source) (body : String) : Except Failure (List Record) :=
  (readJson (Data.asList? Release.decode?) body).map fun releases =>
    (releases.take (s.maxItems.getD standardReleases)).map
      (Release.record s.id (repositoryOf s))

/-- The records of a list of issues, proposals of changes left out. -/
def readIssues (s : Source) (body : String) : Except Failure (List Record) :=
  (readJson (Data.asList? Issue.decode?) body).map fun issues =>
    (atMost s.maxItems (issues.filter fun i => !i.isProposal)).map
      (Issue.record s.id (repositoryOf s))

/-! ### Discussion boards -/

/-- The address of the board. -/
def boardRoot : String := "https://www.reddit.com"

/-- A post of a discussion board. -/
structure Post where
  /-- Its title. -/
  title : String
  /-- Its path on the board. -/
  permalink : String
  /-- What it says. -/
  selftext : String
  /-- What it links to. -/
  url : Option String
  /-- Who posted it. -/
  author : Option String
  /-- When, in seconds since the start of 1970. -/
  created : Option Double
  /-- The balance of votes. -/
  score : Option Int
  /-- How many comments it has. -/
  comments : Option Nat
  /-- The group it was posted in. -/
  group : Option String
  /-- Its flair. -/
  flair : Option String
  /-- It is pinned. -/
  stickied : Bool

/-- The post that data denotes. -/
def Post.decode? (d : Data) : Option Post := do
  let f ← d.fields? ["title", "permalink", "selftext", "url", "author", "created_utc", "score",
    "num_comments", "subreddit", "link_flair_text", "stickied"]
  return {
    title := ← f.required? "title" Data.asText?
    permalink := ← f.required? "permalink" Data.asText?
    selftext := ← f.orElse? "selftext" Data.asText? ""
    url := ← f.maybe? "url" Data.asText?
    author := ← f.maybe? "author" Data.asText?
    created := ← f.maybe? "created_utc" Data.asFloat?
    score := ← f.maybe? "score" Data.asSigned?
    comments := ← f.maybe? "num_comments" Data.asNat?
    group := ← f.maybe? "subreddit" Data.asText?
    flair := ← f.maybe? "link_flair_text" Data.asText?
    stickied := ← f.orElse? "stickied" Data.asBool? false }

/-- What stands under the one field `data`. -/
def decodeWrapped? {α : Type} (read : Data → Option α) (d : Data) : Option α := do
  let f ← d.fields? ["data"]
  f.required? "data" read

/-- The posts of a listing. -/
def decodePosts? : Data → Option (List Post) :=
  decodeWrapped? fun d => do
    let f ← d.fields? ["children"]
    f.orElse? "children" (Data.asList? (decodeWrapped? Post.decode?)) []

/-- The text of a post, or where it links to if that is elsewhere. -/
def Post.content (p : Post) : String :=
  if !isBlank p.selftext.toList then p.selftext
  else
    match p.url with
    | some link =>
      if boardRoot.toList.isPrefixOf link.toList || link.isEmpty then ""
      else "Link post: " ++ link
    | none => ""

/-- The record of a post. -/
def Post.record (source : String) (p : Post) : Record :=
  { Record.make (boardRoot ++ p.permalink) p.title p.content with
    source, kind := .discussion
    published := p.created.bind fun x => Instant.ofSeconds? x.toInt64
    extras := { Extras.none with
      author := p.author, votes := p.score, comments := p.comments, tags := p.group.toList
      label := nonempty p.flair } }

/-- The records of a listing, pinned posts left out unless the source keeps them. -/
def readPosts (s : Source) (body : String) : Except Failure (List Record) :=
  (readJson decodePosts? body).map fun posts =>
    (atMost s.maxItems (posts.filter fun p => !p.stickied || s.includeStickied)).map
      (Post.record s.id)

end Metasearch.Answer
