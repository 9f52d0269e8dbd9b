import Metasearch.Encoding.Form

/-!
# URLs

A URL as its components, and the text of one. Components are kept in the form in which they are
written: percent-encoded, host in lower case, default port left out.

## Main definitions

* `Host`, `Authority`, `Path`, `Url`.
* `Url.Error`: why a text is no URL.
* `Url.toText`: the URL written out.
* `Url.queryPairs`, `Url.appendPairs`: the query as pairs.
-/

namespace Metasearch

open Metasearch.Text Metasearch.Encoding

namespace Url

/-- Why a text is no URL. -/
inductive Error where
  /-- The host is missing where one is needed. -/
  | emptyHost
  /-- The host has a character or label that no domain name has. -/
  | invalidDomain
  /-- The port is no number or too large. -/
  | invalidPort
  /-- The host ends in a number and is no IPv4 address. -/
  | invalidIpv4
  /-- The host stands in brackets and is no IPv6 address. -/
  | invalidIpv6
  /-- The host of a URL without a well-known scheme has a forbidden character. -/
  | invalidHostCharacter
  /-- There is no scheme, and nothing that the text is relative to. -/
  | noBase
  /-- What the text is relative to has a path without segments. -/
  | baseWithoutSegments
deriving DecidableEq, Repr

/-- The wording of an error. -/
def Error.message : Error → String
  | .emptyHost => "empty host"
  | .invalidDomain => "invalid international domain name"
  | .invalidPort => "invalid port number"
  | .invalidIpv4 => "invalid IPv4 address"
  | .invalidIpv6 => "invalid IPv6 address"
  | .invalidHostCharacter => "invalid domain character"
  | .noBase => "relative URL without a base"
  | .baseWithoutSegments => "relative URL with a cannot-be-a-base base"

/-- Where a URL's server is. -/
inductive Host where
  /-- A domain name, or the host of a URL without a well-known scheme; may be empty there. -/
  | domain (text : List Char)
  /-- A 32-bit address. -/
  | ipv4 (address : Nat)
  /-- Eight 16-bit pieces. -/
  | ipv6 (pieces : List Nat)
deriving DecidableEq

/-- User, host and port. -/
structure Authority where
  /-- The user name; empty when there is none. -/
  username : List Char
  /-- The password; empty when there is none. -/
  password : List Char
  /-- The host. -/
  host : Host
  /-- The port, unless it is the scheme's own. -/
  port : Option Nat
deriving DecidableEq

/-- What stands between the authority and the query. -/
inductive Path where
  /-- Segments, each with a slash in front. -/
  | segments (parts : List (List Char))
  /-- A text without hierarchy, as in `mailto:`. -/
  | plain (text : List Char)
deriving DecidableEq

end Url

/-- A URL as its components. -/
structure Url where
  /-- The scheme in lower case, without its colon. -/
  scheme : List Char
  /-- User, host and port, if two slashes follow the scheme. -/
  authority : Option Url.Authority
  /-- The path. -/
  path : Url.Path
  /-- What follows the question mark. -/
  query : Option (List Char)
  /-- What follows the number sign. -/
  fragment : Option (List Char)
deriving DecidableEq

namespace Url

/-! ### Schemes -/

/-- The port that a scheme stands for. -/
def defaultPort? (scheme : List Char) : Option Nat :=
  match String.ofList scheme with
  | "http" | "ws" => some 80
  | "https" | "wss" => some 443
  | "ftp" => some 21
  | _ => none

/-- Schemes whose URLs have a host and segments. -/
def isSpecial (scheme : List Char) : Bool :=
  match String.ofList scheme with
  | "http" | "https" | "ws" | "wss" | "ftp" | "file" => true
  | _ => false

/-- The scheme of local files. -/
def isFile (scheme : List Char) : Bool :=
  String.ofList scheme == "file"

/-- The two schemes of the web. -/
def isWeb (scheme : List Char) : Bool :=
  match String.ofList scheme with
  | "http" | "https" => true
  | _ => false

/-! ### Character sets

Each tells which characters are written as they stand; all beyond ASCII are escaped. -/

/-- Not a control character. -/
def keepInPlain (c : Char) : Bool :=
  0x20 ≤ c.toNat && c.toNat < 0x7F

/-- What stands for itself in a fragment. -/
def keepInFragment (c : Char) : Bool :=
  keepInPlain c && !(c == ' ' || c == '"' || c == '<' || c == '>' || c == '`')

/-- What stands for itself in a path segment. -/
def keepInPath (c : Char) : Bool :=
  keepInFragment c && !(c == '#' || c == '?' || c == '\x7b' || c == '\x7d')

/-- What stands for itself in a user name or password. -/
def keepInUser (c : Char) : Bool :=
  keepInPath c && !(c == '/' || c == ':' || c == ';' || c == '=' || c == '@' || c == '[' ||
    c == '\\' || c == ']' || c == '^' || c == '|')

/-- What stands for itself in a query; special schemes escape the apostrophe too. -/
def keepInQuery (special : Bool) (c : Char) : Bool :=
  keepInPlain c && !(c == ' ' || c == '"' || c == '#' || c == '<' || c == '>') &&
    !(special && c == '\'')

end Url
end Metasearch
