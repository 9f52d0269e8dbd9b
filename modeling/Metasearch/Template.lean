import Metasearch.Failure
import Metasearch.Url.Parser

/-!
# Request templates

A source is asked by a URL made from a template: known placeholders in braces are replaced by
what the query says, and parameters are put at the end of the URL's query. Search terms are
percent-encoded where they go into the URL itself; parameters are encoded as they are appended.

## Main definitions

* `fill`: placeholders replaced in one pass, so that a replacement is never read again.
* `Template.render`: the URL for a query.
-/

namespace Metasearch

open Metasearch.Text Metasearch.Number Metasearch.Encoding

/-- How a query becomes a URL. -/
structure Template where
  /-- The URL; may hold placeholders. -/
  url : String
  /-- Names and values of parameters in the order of their names; values may hold
  placeholders. -/
  params : List (String × String)
deriving DecidableEq

/-- Text with every known placeholder replaced. A brace that starts none stays, and what is put
in is not looked at again. -/
def fill (value : List Char → Option (List Char)) (s : List Char) : List Char :=
  match s with
  | [] => []
  | c :: r =>
    if c = '\x7b' then
      match _h : afterFirst (· == '\x7d') r with
      | some rest =>
        match value (beforeFirst (· == '\x7d') r) with
        | some v => v ++ fill value rest
        | none => c :: fill value r
      | none => c :: fill value r
    else c :: fill value r
termination_by s.length
decreasing_by
  · have := length_afterFirst_lt ‹_›
    simp
    omega
  all_goals simp

namespace Template

/-- A template without parameters. -/
def ofUrl (url : String) : Template := ⟨url, []⟩

/-- Parameters with one more, in the place of one that has its name. -/
def insertParam (name value : String) : List (String × String) → List (String × String)
  | [] => [(name, value)]
  | (n, v) :: r =>
    if name < n then (name, value) :: (n, v) :: r
    else if name = n then (name, value) :: r
    else (n, v) :: insertParam name value r

/-- The template with one more parameter. -/
def withParam (t : Template) (name value : String) : Template :=
  { t with params := insertParam name value t.params }

/-- The template with the given parameters, of two with one name the later. -/
def withParams (t : Template) (params : List (String × String)) : Template :=
  params.foldl (fun t p => t.withParam p.1 p.2) t

/-- The placeholder of the search terms. -/
def terms : String := "\x7bquery\x7d"

/-- The placeholder of the language. -/
def language : String := "\x7blanguage\x7d"

/-- What the placeholders stand for, `terms` being the search terms as they go in. -/
def placeholder (q : Query) (terms name : List Char) : Option (List Char) :=
  match String.ofList name with
  | "query" => some terms
  | "page" => some (numeral (max q.page 1))
  | "offset" => some (numeral (q.offset 10))
  | "language" => some q.languageOrDefault.toList
  | _ => none

/-- The URL of the template with its placeholders replaced. -/
def filledUrl (t : Template) (q : Query) : List Char :=
  fill (placeholder q (Percent.encodeTerm q.terms.toList)) t.url.toList

/-- The parameters with their placeholders replaced. -/
def filledParams (t : Template) (q : Query) : List (List Char × List Char) :=
  t.params.map fun (name, value) =>
    (name.toList, fill (placeholder q q.terms.toList) value.toList)

/-- The URL for a query. -/
def render (t : Template) (q : Query) : Except Failure Url :=
  match Url.parse (t.filledUrl q) with
  | .ok u => .ok (u.appendPairs (t.filledParams q))
  | .error e => .error (.badUrl e)

/-- A template as data. -/
def encode (t : Template) : Data :=
  .table [("url", .text t.url), ("params", .table (t.params.map fun (n, v) => (n, .text v)))]

/-- The template that data denotes. -/
def decode? (d : Data) : Option Template := do
  let f ← d.fields? ["url", "params"]
  let url ← f.required? "url" Data.asText?
  let params ← f.orElse? "params" Data.asTexts? []
  return (ofUrl url).withParams params

end Template
end Metasearch
