import Metasearch.Data.Decode
import Metasearch.Text.Space

/-!
# Categories

What kind of thing a source delivers. A query names categories, and the sources that belong to
one of them are asked.

## Main definitions

* `Category`: eight known categories, and one for all other names.
* `Category.all`: the known ones in display order.
* `Category.named`, `Category.ofLoose`: the category of a name.
-/

namespace Metasearch

/-- What kind of thing a source delivers. -/
inductive Category where
  /-- Web pages. -/
  | general
  /-- Pictures. -/
  | images
  /-- Films. -/
  | videos
  /-- News articles. -/
  | news
  /-- Software projects. -/
  | code
  /-- Discussion threads. -/
  | discussion
  /-- Subscribed feeds. -/
  | feeds
  /-- Pages scraped to order. -/
  | custom
  /-- A name that is not known; no source belongs to it. -/
  | unknown
deriving DecidableEq, Repr

namespace Category

/-- The known categories in display order. -/
def all : List Category :=
  [.general, .images, .videos, .news, .code, .discussion, .feeds, .custom]

/-- The name of a category. -/
def name : Category → String
  | .general => "general"
  | .images => "images"
  | .videos => "videos"
  | .news => "news"
  | .code => "code"
  | .discussion => "discussion"
  | .feeds => "feeds"
  | .custom => "custom"
  | .unknown => "unknown"

/-- The category of a name as it is stored. -/
def named (s : String) : Category :=
  (all.find? fun c => c.name == s).getD .unknown

/-- The category of a name as a user types it: case and blanks around it do not count. -/
def ofLoose (s : String) : Category :=
  named (Text.lowered (Text.trimmed s))

/-- A category as data. -/
def encode (c : Category) : Data := .text c.name

/-- The category that data denotes. -/
def decode? (d : Data) : Option Category :=
  d.asName?.map named

end Category
end Metasearch
