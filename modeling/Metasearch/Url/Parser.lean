import Metasearch.Url.Host
import Metasearch.Url.Printer

/-!
# Reading URLs

Fragment and query are cut off first, at the first `#` and the first `?` before it: no mark in
front of them can be part of another component. What is left is a scheme, an authority and a
path, and a backslash counts as a slash where the scheme is well known.

## Main definitions

* `Path.ofSegments`: dot segments resolved, characters escaped.
* `Authority.parse`: user, host and port.
* `Url.parse`, `Url.join`: a URL on its own, or relative to another.
-/

namespace Metasearch.Url

open Metasearch.Text Metasearch.Number Metasearch.Encoding

/-! ### Cutting -/

/-- Control characters and the space, which do not count at the ends. -/
def isMargin (c : Char) : Bool :=
  c.toNat ≤ 0x20

/-- Tabs and line ends, which do not count anywhere. -/
def isSkipped (c : Char) : Bool :=
  c == '\t' || c == '\n' || c == '\r'

/-- The text of a URL without what does not count. -/
def strip (s : List Char) : List Char :=
  (trimWhere isMargin s).filter fun c => !isSkipped c

/-- What stands before the first `mark`, and what follows it if it occurs. -/
def cut (mark : Char) (s : List Char) : List Char × Option (List Char) :=
  (beforeFirst (· == mark) s, afterFirst (· == mark) s)

/-- A character of a scheme after its first. -/
def isSchemeChar (c : Char) : Bool :=
  c.isAlphanum || c == '+' || c == '-' || c == '.'

/-- The scheme in lower case and what follows its colon. -/
def splitScheme? (s : List Char) : Option (List Char × List Char) :=
  match s with
  | [] => none
  | c :: _ =>
    if !c.isAlpha then none
    else
      match s.dropWhile isSchemeChar with
      | ':' :: rest => some (lower (s.takeWhile isSchemeChar), rest)
      | _ => none

/-- The slash, and the backslash where the scheme is well known. -/
def isSlash (special : Bool) (c : Char) : Bool :=
  c == '/' || (special && c == '\\')

/-! ### Paths -/

/-- A segment that stands for the parent; a dot may be escaped. -/
def isDoubleDot (s : List Char) : Bool :=
  ["..", ".%2e", "%2e.", "%2e%2e"].contains (String.ofList (lower s))

/-- A segment that stands for its own place. -/
def isSingleDot (s : List Char) : Bool :=
  [".", "%2e"].contains (String.ofList (lower s))

/-- A Windows drive, written with a colon or a bar. -/
def isDrive (s : List Char) : Bool :=
  match s with
  | [c, d] => c.isAlpha && (d == ':' || d == '|')
  | _ => false

/-- Segments, last first, after one more; `last` holds of the final one. The drive of a local
file is never left. -/
def pushSegment (file last : Bool) (done : List (List Char)) (s : List Char) :
    List (List Char) :=
  if isDoubleDot s then
    let up := if file && done.length == 1 && done.any isDrive then done else done.drop 1
    if last then [] :: up else up
  else if isSingleDot s then if last then [] :: done else done
  else if file && done.isEmpty && isDrive s then [s.take 1 ++ [':']]
  else Percent.encode keepInPath s :: done

/-- All segments pushed in turn. -/
def pushSegments (file : Bool) (done : List (List Char)) : List (List Char) → List (List Char)
  | [] => done
  | [s] => pushSegment file true done s
  | s :: t :: rest => pushSegments file (pushSegment file false done s) (t :: rest)

/-- The segments of a path after its first slash, on top of those of a base, last first. -/
def resolve (special file : Bool) (base : List (List Char)) (s : List Char) :
    List (List Char) :=
  let parts := (pushSegments file base (splitWhere (isSlash special) s)).reverse
  if file then
    match parts.dropWhile List.isEmpty with
    | [] => [[]]
    | kept => kept
  else parts

/-- The path after an authority. Where the scheme is well known it has at least one segment. -/
def pathAfterAuthority (special : Bool) (s : List Char) : Path :=
  match s with
  | [] => .segments (if special then [[]] else [])
  | c :: r => .segments (resolve special false [] (if isSlash special c then r else s))

/-! ### Authorities -/

/-- What stands before and after the last `@`. -/
def splitUser (s : List Char) : Option (List Char × List Char) :=
  match s.reverse.dropWhile (· != '@') with
  | [] => none
  | _ :: before => some (before.reverse, (s.reverse.takeWhile (· != '@')).reverse)

/-- Host and what follows it: a colon within brackets does not end the host. -/
def splitHost (inside : Bool) : List Char → List Char × List Char
  | [] => ([], [])
  | c :: r =>
    if c = ':' ∧ !inside then ([], c :: r)
    else
      let (host, rest) := splitHost (if c = '[' then true else if c = ']' then false else inside) r
      (c :: host, rest)

/-- The port after its colon, and what follows it: a backslash may. -/
def parsePort (scheme s : List Char) : Except Error (Option Nat × List Char) :=
  let (digits, rest) := spanDigits s
  if 65535 < value digits then .error .invalidPort
  else if rest.head?.any (· != '\\') then .error .invalidPort
  else if digits.isEmpty || defaultPort? scheme == some (value digits) then .ok (none, rest)
  else .ok (some (value digits), rest)

/-- User, host and port, and what follows them. `more` tells whether anything of the URL follows
the authority. -/
def Authority.parse (scheme s : List Char) (more : Bool) :
    Except Error (Authority × List Char) := do
  let special := isSpecial scheme
  let (user, place) := (splitUser s).getD ([], s)
  if (splitUser s).isSome && user.isEmpty && place.isEmpty && more then throw .emptyHost
  let username := Percent.encode keepInUser (beforeFirst (· == ':') user)
  let password := Percent.encode keepInUser ((afterFirst (· == ':') user).getD [])
  let (hostText, rest) := splitHost false place
  if special && hostText.isEmpty then throw .emptyHost
  let host ← if special then Host.parse hostText else Host.parsePlain hostText
  if host = .domain [] && (!rest.isEmpty || !username.isEmpty || !password.isEmpty) then
    throw .emptyHost
  match rest with
  | [] => return (⟨username, password, host, none⟩, [])
  | _ :: portText =>
    let (port, left) ← parsePort scheme portText
    return (⟨username, password, host, port⟩, left)

/-! ### URLs -/

/-- The query of a URL as it is kept. -/
def keepQuery (scheme : List Char) (q : Option (List Char)) : Option (List Char) :=
  q.map (Percent.encode (keepInQuery (isSpecial scheme)))

/-- The fragment of a URL as it is kept. -/
def keepFragment (f : Option (List Char)) : Option (List Char) :=
  f.map (Percent.encode keepInFragment)

/-- A URL whose text after the two slashes is `s`. -/
def withAuthority (scheme s : List Char) (q f : Option (List Char)) : Except Error Url := do
  let slash := isSlash (isSpecial scheme)
  let place := s.takeWhile fun c => !slash c
  let tail := s.dropWhile fun c => !slash c
  let (authority, left) ← Authority.parse scheme place (!tail.isEmpty || q.isSome || f.isSome)
  return { scheme, authority := some authority
           path := pathAfterAuthority (isSpecial scheme) (left ++ tail)
           query := keepQuery scheme q, fragment := keepFragment f }

/-- The authority of a local file without a host. -/
def noHost : Authority := ⟨[], [], .domain [], none⟩

/-- The segments of a path. -/
def Path.parts : Path → List (List Char)
  | .segments parts => parts
  | .plain _ => []

/-- A path that starts at the root. -/
def rooted (special file : Bool) (s : List Char) : Path :=
  .segments (resolve special file [] s)

/-- Holds of a text whose first segment is a Windows drive. -/
def startsWithDrive (s : List Char) : Bool :=
  isDrive (s.takeWhile fun c => !isSlash true c)

/-- The host of a local file; `localhost` counts as none. -/
def parseFileHost (s : List Char) : Except Error Host := do
  if s.isEmpty then return .domain []
  let host ← Host.parse s
  return if host = .domain "localhost".toList then .domain [] else host

/-- A local file whose text after the scheme is `s`, relative to `base` if that is one too. -/
def parseFile (base : Option Url) (s : List Char) (q f : Option (List Char)) :
    Except Error Url := do
  let scheme := "file".toList
  let file (host : Host) (path : Path) : Url :=
    let kept := match path with
      | .segments (d :: _) => if isDrive d then Host.domain [] else host
      | _ => host
    { scheme, authority := some { noHost with host := kept }, path
      query := keepQuery scheme q, fragment := keepFragment f }
  match s with
  | c :: r =>
    if isSlash true c then
      match r with
      | d :: r' =>
        if isSlash true d then
          let place := r'.takeWhile fun c => !isSlash true c
          let tail := r'.dropWhile fun c => !isSlash true c
          if isDrive place then return file (.domain []) (rooted true true r')
          let host ← parseFileHost place
          return file host (rooted true true (tail.drop 1))
        else
          let host := if startsWithDrive r then .domain [] else
            ((base.bind (·.authority)).map (·.host)).getD (.domain [])
          return file host (rooted true true r)
      | [] =>
        let host := ((base.bind (·.authority)).map (·.host)).getD (.domain [])
        return file host (rooted true true r)
    else
      match base with
      | some b =>
        if startsWithDrive s then return file (.domain []) (rooted true true s)
        let parts := (b.path.parts.reverse.drop 1)
        return file ((b.authority.map (·.host)).getD (.domain []))
          (.segments (resolve true true parts s))
      | none => return file (.domain []) (rooted true true s)
  | [] =>
    match base with
    | some b =>
      return { b with query := if q.isSome then keepQuery scheme q else b.query
                      fragment := keepFragment f }
    | none => return file (.domain []) (rooted true true s)

/-- A text without a scheme of its own, or with the scheme of `base`, relative to `base`. -/
def parseRelative (base : Url) (s : List Char) (q f : Option (List Char)) : Except Error Url :=
  let special := isSpecial base.scheme
  let query := keepQuery base.scheme q
  let fragment := keepFragment f
  match s with
  | [] =>
    .ok { base with query := if q.isSome then query else base.query, fragment }
  | c :: r =>
    if c = '/' ∨ c = '\\' then
      match r with
      | d :: r' =>
        if d = '/' ∨ d = '\\' then
          withAuthority base.scheme
            (if c = '/' ∧ d = '/' then r' else r'.dropWhile fun c => c == '/' || c == '\\') q f
        else .ok { base with path := rooted special false r, query, fragment }
      | [] => .ok { base with path := rooted special false r, query, fragment }
    else
      .ok { base with
        path := .segments (resolve special false (base.path.parts.reverse.drop 1) s)
        query, fragment }

/-- A text with a scheme, relative to `base` where that has the same scheme and allows it. -/
def parseWithScheme (base : Option Url) (scheme s : List Char) (q f : Option (List Char)) :
    Except Error Url :=
  let sameBase := base.filter fun b => b.scheme == scheme
  if isFile scheme then parseFile sameBase s q f
  else if isSpecial scheme then
    let rest := s.dropWhile (isSlash true)
    match sameBase with
    | some b =>
      if s.length < rest.length + 2 then parseRelative b s q f
      else withAuthority scheme rest q f
    | none => withAuthority scheme rest q f
  else
    let query := keepQuery scheme q
    let fragment := keepFragment f
    match s with
    | '/' :: '/' :: r => withAuthority scheme r q f
    | '/' :: r => .ok { scheme, authority := none, path := rooted false false r, query, fragment }
    | _ =>
      .ok { scheme, authority := none, path := .plain (Percent.encode keepInPlain s), query,
            fragment }

/-- The URL that a text denotes, relative to `base` if there is one. -/
def parseFrom (base : Option Url) (text : List Char) : Except Error Url :=
  let s := strip text
  let (front, f) := cut '#' s
  match splitScheme? s with
  | some (scheme, _) =>
    let (body, q) := cut '?' ((splitScheme? front).elim [] (·.2))
    parseWithScheme base scheme body q f
  | none =>
    match base with
    | none => .error .noBase
    | some b =>
      match s, b.path with
      | '#' :: _, _ => .ok { b with fragment := keepFragment f }
      | _, .plain _ => .error .baseWithoutSegments
      | _, .segments _ =>
        let (body, q) := cut '?' front
        if isFile b.scheme then parseFile (some b) body q f else parseRelative b body q f

/-- The URL that a text denotes on its own. -/
def parse (text : List Char) : Except Error Url :=
  parseFrom none text

/-- The URL that a text denotes relative to another. -/
def join (base : Url) (text : List Char) : Except Error Url :=
  parseFrom (some base) text

end Metasearch.Url
