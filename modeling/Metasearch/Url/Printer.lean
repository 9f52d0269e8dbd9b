import Metasearch.Number.Decimal
import Metasearch.Url.Basic

/-!
# The text of a URL

## Main definitions

* `Host.toText`, `Authority.toText`, `Path.toText`.
* `Url.toText`: all components with their marks between them.
-/

namespace Metasearch.Url

open Metasearch.Text Metasearch.Number Metasearch.Encoding

/-! ### Hosts -/

/-- A lower-case hexadecimal numeral. -/
def hexNumeral (n : Nat) : List Char :=
  if n < 16 then [hexDigit n]
  else hexNumeral (n / 16) ++ [hexDigit (n % 16)]
termination_by n
decreasing_by omega

/-- The four bytes of an address with dots between them. -/
def ipv4Text (address : Nat) : List Char :=
  joinWith ['.'] ([address / 16777216, address / 65536 % 256, address / 256 % 256,
    address % 256].map numeral)

/-- How many zero pieces stand at the start. -/
def zeroRun (pieces : List Nat) : Nat :=
  (pieces.takeWhile (· == 0)).length

/-- Start and length of the first longest run of zero pieces. -/
def longestZeroRun : Nat → List Nat → Nat × Nat
  | i, [] => (i, 0)
  | i, p :: rest =>
    let later := longestZeroRun (i + 1) rest
    let here := zeroRun (p :: rest)
    if later.2 ≤ here then (i, here) else later

/-- Pieces in hexadecimal, the longest run of two or more zeros cut out as `::`. -/
def ipv6Text (pieces : List Nat) : List Char :=
  let (start, length) := longestZeroRun 0 pieces
  let groups := fun ps : List Nat => joinWith [':'] (ps.map hexNumeral)
  if length < 2 then groups pieces
  else groups (pieces.take start) ++ ':' :: ':' :: groups (pieces.drop (start + length))

/-- A host as it stands in a URL. -/
def Host.toText : Host → List Char
  | .domain text => text
  | .ipv4 address => ipv4Text address
  | .ipv6 pieces => '[' :: ipv6Text pieces ++ [']']

/-- The host, if it is not the empty name. -/
def Host.text? (h : Host) : Option (List Char) :=
  if h = .domain [] then none else some h.toText

/-! ### Authority, path and URL -/

/-- User name and password with their marks; nothing when both are empty. -/
def Authority.userText (a : Authority) : List Char :=
  if a.username.isEmpty && a.password.isEmpty then []
  else a.username ++ (if a.password.isEmpty then [] else ':' :: a.password) ++ ['@']

/-- The port with its colon. -/
def portText : Option Nat → List Char
  | none => []
  | some p => ':' :: numeral p

/-- User, host and port. -/
def Authority.toText (a : Authority) : List Char :=
  a.userText ++ a.host.toText ++ portText a.port

/-- Segments, each with a slash in front. -/
def segmentsText (parts : List (List Char)) : List Char :=
  parts.flatMap ('/' :: ·)

/-- The path as it stands in a URL. -/
def Path.toText : Path → List Char
  | .segments parts => segmentsText parts
  | .plain text => text

/-- What keeps a path that starts with two slashes from being read as an authority. -/
def Path.guard : Path → List Char
  | .segments ([] :: _ :: _) => ['/', '.']
  | _ => []

/-- An optional component after its mark. -/
def marked (mark : Char) : Option (List Char) → List Char
  | none => []
  | some s => mark :: s

/-- What stands before the query. -/
def hierarchyText (u : Url) : List Char :=
  match u.authority with
  | some a => '/' :: '/' :: a.toText ++ u.path.toText
  | none => u.path.guard ++ u.path.toText

/-- The URL written out. -/
def toText (u : Url) : List Char :=
  u.scheme ++ ':' :: u.hierarchyText ++ marked '?' u.query ++ marked '#' u.fragment

/-- The URL written out, as a string. -/
def href (u : Url) : String :=
  String.ofList u.toText

/-- The host of a URL as text, if it has one. -/
def hostText? (u : Url) : Option (List Char) :=
  u.authority.bind fun a => a.host.text?

/-- The pairs of the query. -/
def queryPairs (u : Url) : List (List Char × List Char) :=
  Form.decode (u.query.getD [])

/-- The URL with more pairs at the end of its query. -/
def appendPairs (u : Url) (pairs : List (List Char × List Char)) : Url :=
  { u with query := Form.append u.query pairs }

end Metasearch.Url
