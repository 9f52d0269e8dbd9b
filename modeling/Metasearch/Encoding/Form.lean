import Metasearch.Encoding.Percent
import Metasearch.Text.Space

/-!
# Form encoding

A list of names and values as the query of a URL: `name=value` joined by `&`, a space written as
`+`.

## Main definitions

* `encode`: the query of a list of pairs.
* `decode`: the pairs of a query. Bytes that are not UTF-8 become U+FFFD.
* `append`: a query with more pairs after it.
-/

namespace Metasearch.Encoding.Form

open Metasearch.Text

/-- ASCII letters, digits and `*`, `-`, `.`, `_`. -/
def isKept (c : Char) : Bool :=
  c.isAlphanum || c == '*' || c == '-' || c == '.' || c == '_'

/-- A character of a name or value. -/
def encodeChar (c : Char) : List Char :=
  if c = ' ' then ['+'] else Percent.encodeChar isKept c

/-- A name or value. -/
def encodePart (s : List Char) : List Char :=
  s.flatMap encodeChar

/-- A name with its value. -/
def encodePair (pair : List Char × List Char) : List Char :=
  encodePart pair.1 ++ '=' :: encodePart pair.2

/-- The query of a list of pairs. -/
def encode (pairs : List (List Char × List Char)) : List Char :=
  joinWith ['&'] (pairs.map encodePair)

/-- The text of a name or value. -/
def decodePart (s : List Char) : List Char :=
  Utf8.decodeLenient (Percent.decode (s.map fun c => if c = '+' then ' ' else c))

/-- A name and its value; all is name when there is no `=`. -/
def decodePair (s : List Char) : List Char × List Char :=
  (decodePart (beforeFirst (· == '=') s), decodePart ((afterFirst (· == '=') s).getD []))

/-- The pairs of a query. -/
def decode (s : List Char) : List (List Char × List Char) :=
  ((splitWhere (· == '&') s).filter fun piece => !piece.isEmpty).map decodePair

/-- A query, or none, with more pairs after it. -/
def append (query : Option (List Char)) (pairs : List (List Char × List Char)) :
    Option (List Char) :=
  if pairs.isEmpty then query
  else
    match query with
    | none | some [] => some (encode pairs)
    | some q => some (q ++ '&' :: encode pairs)

end Metasearch.Encoding.Form
