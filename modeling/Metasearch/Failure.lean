import Metasearch.Query
import Metasearch.Url.Basic

/-!
# Failures

Why a search could not be set up, or why one source gave no answer. A failure is a cause; its
wording is made from it. In the report on a source it falls into one of four kinds.

## Main definitions

* `Failure`: the causes, with those of each area in a type of their own.
* `Failure.message`: the wording.
* `FailureKind`, `Failure.kind`: the kind that a report shows.
-/

namespace Metasearch

/-- Why an exchange with a server did not come about. -/
inductive TransportFault where
  /-- The request could not be put together, for the URL if one is known. -/
  | unsendable (url : Option String)
  /-- The server could not be reached. -/
  | unreachable (url : String)
  /-- The server refused the request with a status. -/
  | refused (status : Nat) (url : String)
deriving DecidableEq

/-- The usual words for a status. -/
def statusReason (status : Nat) : String :=
  match status with
  | 400 => "Bad Request"
  | 401 => "Unauthorized"
  | 402 => "Payment Required"
  | 403 => "Forbidden"
  | 404 => "Not Found"
  | 405 => "Method Not Allowed"
  | 406 => "Not Acceptable"
  | 407 => "Proxy Authentication Required"
  | 408 => "Request Timeout"
  | 409 => "Conflict"
  | 410 => "Gone"
  | 411 => "Length Required"
  | 412 => "Precondition Failed"
  | 413 => "Payload Too Large"
  | 414 => "URI Too Long"
  | 415 => "Unsupported Media Type"
  | 416 => "Range Not Satisfiable"
  | 417 => "Expectation Failed"
  | 418 => "I'm a teapot"
  | 421 => "Misdirected Request"
  | 422 => "Unprocessable Entity"
  | 423 => "Locked"
  | 424 => "Failed Dependency"
  | 425 => "Too Early"
  | 426 => "Upgrade Required"
  | 428 => "Precondition Required"
  | 429 => "Too Many Requests"
  | 431 => "Request Header Fields Too Large"
  | 451 => "Unavailable For Legal Reasons"
  | 500 => "Internal Server Error"
  | 501 => "Not Implemented"
  | 502 => "Bad Gateway"
  | 503 => "Service Unavailable"
  | 504 => "Gateway Timeout"
  | 505 => "HTTP Version Not Supported"
  | 506 => "Variant Also Negotiates"
  | 507 => "Insufficient Storage"
  | 508 => "Loop Detected"
  | 510 => "Not Extended"
  | 511 => "Network Authentication Required"
  | _ => "<unknown status code>"

/-- The wording of a fault. -/
def TransportFault.message : TransportFault → String
  | .unsendable none => "builder error"
  | .unsendable (some url) => "builder error for url (" ++ url ++ ")"
  | .unreachable url => "error sending request for url (" ++ url ++ ")"
  | .refused status url =>
    "HTTP status " ++ (if status < 500 then "client" else "server") ++ " error (" ++
      toString status ++ " " ++ statusReason status ++ ") for url (" ++ url ++ ")"

/-- Why an answer holds no results. -/
inductive AnswerFault where
  /-- The server asks for a proof that a person is there. -/
  | captcha
  /-- The answer is no JSON, or has another shape. -/
  | notJson
  /-- The answer is no well-formed XML. -/
  | notXml
  /-- The outermost element is that of no feed. -/
  | notFeed (root : String)
  /-- The answer has no element. -/
  | emptyFeed
  /-- A configured selector is not well formed. -/
  | badSelector (selector : String)
  /-- Anything else, in words. -/
  | other (text : String)
deriving DecidableEq

/-- The wording of a fault. -/
def AnswerFault.message : AnswerFault → String
  | .captcha => "Google returned a CAPTCHA page (bot detected)"
  | .notJson => "Invalid JSON"
  | .notXml => "Invalid feed XML"
  | .notFeed root => "Unexpected root element <" ++ root ++ ">, expected an RSS or Atom feed"
  | .emptyFeed => "Empty feed document"
  | .badSelector selector => "Failed to parse selector '" ++ selector ++ "'"
  | .other text => text

/-- Why a file could not be read. -/
inductive FileFault where
  /-- There is no such file. -/
  | missing
  /-- It is a directory. -/
  | directory
  /-- A part of the path is no directory. -/
  | notDirectory
  /-- Reading it is not allowed. -/
  | denied
  /-- It does not hold UTF-8. -/
  | notText
deriving DecidableEq

/-- The wording of a fault. -/
def FileFault.message : FileFault → String
  | .missing => "No such file or directory (os error 2)"
  | .directory => "Is a directory (os error 21)"
  | .notDirectory => "Not a directory (os error 20)"
  | .denied => "Permission denied (os error 13)"
  | .notText => "stream did not contain valid UTF-8"

/-- What is wrong with settings or with the configuration of a source. -/
inductive ConfigFault where
  /-- A source has a blank id. -/
  | blankId
  /-- The weight of a source is not a positive number. -/
  | badWeight (id : String)
  /-- A source belongs to no category. -/
  | noCategory (id : String)
  /-- A source belongs to an unknown category. -/
  | unknownCategory (id : String)
  /-- A scraped page has no selectors. -/
  | noSelectors (id : String)
  /-- Two sources have the same id. -/
  | duplicateId (id : String)
  /-- No result would be kept. -/
  | noResults
  /-- A time limit is zero. -/
  | zeroTimeout
  /-- The settings are no TOML, or have another shape. -/
  | notToml
  /-- A value has no form in TOML. -/
  | unwritable
  /-- The settings file could not be read. -/
  | unreadable (path : String) (fault : FileFault)
  /-- Anything else, in words. -/
  | other (text : String)
deriving DecidableEq

/-- The wording of a fault. -/
def ConfigFault.message : ConfigFault → String
  | .blankId => "source id cannot be empty"
  | .badWeight id => "source '" ++ id ++ "' must have a positive weight"
  | .noCategory id => "source '" ++ id ++ "' must belong to at least one category"
  | .unknownCategory id => "source '" ++ id ++ "' lists an unknown category"
  | .noSelectors id => "custom page source '" ++ id ++ "' needs a selector set"
  | .duplicateId id => "duplicate source id '" ++ id ++ "'"
  | .noResults => "max_results must be at least 1"
  | .zeroTimeout => "timeouts must be positive"
  | .notToml => "TOML"
  | .unwritable => "TOML"
  | .unreadable path fault => "cannot read " ++ path ++ ": " ++ fault.message
  | .other text => text

/-- Why a search could not be set up, or why one source gave no answer. -/
inductive Failure where
  /-- The exchange with the server did not come about. -/
  | transport (fault : TransportFault)
  /-- The server answered with a status other than success. -/
  | status (code : Nat) (url : String)
  /-- The answer could not be made sense of. -/
  | answer (fault : AnswerFault)
  /-- A time limit passed. -/
  | timeout
  /-- The query is malformed. -/
  | query (fault : QueryFault)
  /-- The configuration is malformed. -/
  | config (fault : ConfigFault)
  /-- A text is no URL. -/
  | badUrl (error : Url.Error)
  /-- Anything else, in words. -/
  | other (text : String)
deriving DecidableEq

/-- The wording of a failure. -/
def Failure.message : Failure → String
  | .transport fault => "HTTP request failed: " ++ fault.message
  | .status code url => "HTTP status " ++ toString code ++ " from " ++ url
  | .answer fault => "Failed to parse response: " ++ fault.message
  | .timeout => "Search timeout exceeded"
  | .query fault => "Invalid query: " ++ fault.message
  | .config fault => "Invalid configuration: " ++ fault.message
  | .badUrl error => "URL parsing error: " ++ error.message
  | .other text => text

/-- What a report says about a failure. -/
inductive FailureKind where
  /-- The server could not be reached. -/
  | network
  /-- The server answered with an error. -/
  | status
  /-- The answer could not be made sense of. -/
  | parse
  /-- A time limit passed. -/
  | timeout
deriving DecidableEq, Repr

namespace FailureKind

/-- All kinds. -/
def all : List FailureKind := [.network, .status, .parse, .timeout]

/-- The name of a kind. -/
def name : FailureKind → String
  | .network => "NetworkError"
  | .status => "HTTPStatusError"
  | .parse => "ParseError"
  | .timeout => "TimeoutError"

/-- A kind as data. -/
def encode (k : FailureKind) : Data := .text k.name

/-- The kind that data denotes. -/
def decode? (d : Data) : Option FailureKind :=
  d.asName?.bind fun s => all.find? fun k => k.name == s

end FailureKind

/-- The kind of a failure: one that is neither of transport nor of time is of the answer. -/
def Failure.kind : Failure → FailureKind
  | .transport (.refused _ _) => .status
  | .transport _ => .network
  | .status _ _ => .status
  | .timeout => .timeout
  | _ => .parse

end Metasearch
