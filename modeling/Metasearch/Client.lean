import Metasearch.Adapter
import Metasearch.Encoding.Percent
import Metasearch.Url.Printer

/-!
# Clients

What a client does with a request before it is sent: it checks the URL and the headers, and takes
user name and password out of the URL to send them in a header.

## Main definitions

* `Url.withoutUser`: the URL as it is sent and reported.
* `Request.fault?`: why a request cannot be put together.
* `Server.unreachable`: what a client without a network sees.
-/

namespace Metasearch

/-- Holds of a URL whose user name and password can be sent in a header. -/
def Url.Authority.isReadable (a : Url.Authority) : Bool :=
  match Encoding.Percent.decodeTerm? a.username with
  | none => false
  | some [] => (Encoding.Percent.decodeTerm? a.password).isSome
  | some _ => true

/-- The URL without user name and password. Those that are no text stay in the URL. -/
def Url.withoutUser (u : Url) : Url :=
  match u.authority with
  | some a =>
    if a.isReadable then { u with authority := some { a with username := [], password := [] } }
    else u
  | none => u

/-- Holds of URLs that a request can be made for: those of the web that are not too long and whose
host has no mark that only a URL can hold. -/
def Url.isRequestable (u : Url) : Bool :=
  isWeb u.scheme && u.href.utf8ByteSize < 65535 &&
    ((u.hostText?).getD []).all fun c =>
      !(c == '"' || c.toNat == 0x60 || c == '\x7b' || c == '\x7d')

namespace Request

/-- Holds of the characters in the name of a header. -/
def isHeaderNameChar (c : Char) : Bool :=
  c.isAlphanum || "!#$%&'*+-.^_|~".toList.contains c || c.toNat == 0x60

/-- Holds of names that a header may have. -/
def isHeaderName (name : String) : Bool :=
  !name.isEmpty && name.toList.all isHeaderNameChar

/-- Holds of values that a header may have. -/
def isHeaderValue (value : String) : Bool :=
  value.toList.all fun c => c = '\t' || (0x20 ≤ c.toNat && c.toNat != 0x7f)

/-- Why a request cannot be put together. -/
def fault? (r : Request) : Option TransportFault :=
  if r.url.hostText?.isNone then some (.unsendable (some r.url.href))
  else if !r.headers.all fun h => isHeaderName h.1 && isHeaderValue h.2 then
    some (.unsendable none)
  else if !r.url.withoutUser.isRequestable then
    some (.unsendable (some r.url.withoutUser.href))
  else none

end Request

/-- What a client without a network sees: it finds faults in requests, and reaches no server. -/
def Server.unreachable : Server := fun r =>
  ⟨some 0, .failed (.transport ((r.fault?).getD (.unreachable r.url.withoutUser.href)))⟩

end Metasearch
