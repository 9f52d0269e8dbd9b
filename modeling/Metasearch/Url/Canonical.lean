import Metasearch.Url.Parser

/-!
# Canonical URLs

Two records are the same page when their URLs have the same canonical form: no fragment, no
tracking parameter, no slash at the end of the path.

## Main definitions

* `isTracking`: parameters that only tell where a visitor came from.
* `Url.canonicalize`: the canonical form of a web URL.
* `Url.canonical?`: the canonical form of a text.
-/

namespace Metasearch.Url

open Metasearch.Text Metasearch.Encoding

/-- Parameters that only tell where a visitor came from, besides those that start with
`utm_`. -/
def trackingNames : List String :=
  ["fbclid", "gclid", "dclid", "msclkid", "yclid", "igshid", "mc_cid", "mc_eid", "_hsenc",
    "_hsmi", "ref_src"]

/-- Holds of the name of a tracking parameter, in either case. -/
def isTracking (name : List Char) : Bool :=
  let key := lower name
  "utm_".toList.isPrefixOf key || trackingNames.contains (String.ofList key)

/-- Path segments without empty ones at the end; the root keeps one. -/
def stripSlashes (parts : List (List Char)) : List (List Char) :=
  match dropTailWhile List.isEmpty parts with
  | [] => [[]]
  | kept => kept

/-- A path without slashes at its end, unless it is the root. -/
def Path.stripped : Path → Path
  | .segments parts => .segments (stripSlashes parts)
  | .plain text => .plain text

/-- A query without tracking parameters, written anew; none when nothing is left. -/
def cleanQuery (query : Option (List Char)) : Option (List Char) :=
  match (Form.decode (query.getD [])).filter fun pair => !isTracking pair.1 with
  | [] => none
  | kept => some (Form.encode kept)

/-- The canonical form of a web URL. -/
def canonicalize (u : Url) : Url :=
  { u with path := u.path.stripped, query := cleanQuery u.query, fragment := none }

/-- The web URL that a text denotes. -/
def parseWeb? (text : List Char) : Option Url :=
  match parse (trim text) with
  | .ok u => if isWeb u.scheme && (u.hostText?).isSome then some u else none
  | .error _ => none

/-- The canonical form of a text, if it is a web URL. -/
def canonical? (text : List Char) : Option (List Char) :=
  (parseWeb? text).map fun u => u.canonicalize.toText

/-- `canonical?` on strings. -/
def canonicalHref? (text : String) : Option String :=
  (canonical? text.toList).map String.ofList

end Metasearch.Url
