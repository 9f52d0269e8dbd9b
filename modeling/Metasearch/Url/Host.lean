import Metasearch.Number.Decimal
import Metasearch.Number.Power
import Metasearch.Url.Basic
import Metasearch.Url.Domain

/-!
# Reading hosts

A host is an IPv6 address in brackets, an IPv4 address when its last label is a number, or a
domain name. The host of a URL without a well-known scheme is kept as written.

## Main definitions

* `readIpv4?`, `readIpv6?`.
* `Host.parse`: the host of a URL with a well-known scheme.
* `Host.parsePlain`: any other host.
-/

namespace Metasearch.Url

open Metasearch.Text Metasearch.Number Metasearch.Encoding

/-! ### IPv4 -/

/-- The number that digits of a base denote; nothing if one is no digit of it. -/
def readBase? (base : Nat) (s : List Char) : Option Nat :=
  s.foldl (fun acc c => do
    let a ← acc
    let d ← hexValue? c
    if d < base then some (a * base + d) else none) (some 0)

/-- A part of an address: hexadecimal after `0x`, octal after `0`, decimal otherwise. -/
def readPart? : List Char → Option Nat
  | [] => none
  | '0' :: 'x' :: r => readBase? 16 r
  | '0' :: 'X' :: r => readBase? 16 r
  | '0' :: c :: r => readBase? 8 (c :: r)
  | s => readBase? 10 s

/-- The labels of a name, an empty last one left out. -/
def labels (name : List Char) : List (List Char) :=
  let parts := splitWhere (· == '.') name
  if parts.getLast? == some [] && 1 < parts.length then parts.dropLast else parts

/-- Holds of a name that can only be an address: its last label is a number. -/
def endsInNumber (name : List Char) : Bool :=
  match (labels name).getLast? with
  | some last => (!last.isEmpty && last.all Char.isDigit) || (readPart? last).isSome
  | none => false

/-- The address of parts, all but the last of which are bytes. -/
def joinParts? : List Nat → Option Nat
  | [] => none
  | parts@(p :: _) =>
    let last := parts.getLast?.getD p
    let front := parts.dropLast
    if 4 < parts.length || front.any (255 < ·) || twoTo (8 * (4 - front.length)) ≤ last then none
    else some (front.foldr (fun b acc => acc / 256 + b * 16777216) 0 + last)

/-- The address that a name denotes. -/
def readIpv4? (name : List Char) : Option Nat :=
  ((labels name).mapM readPart?).bind joinParts?

/-! ### IPv6 -/

/-- A 16-bit piece: one to four hexadecimal digits. -/
def readPiece? (s : List Char) : Option Nat :=
  if s.isEmpty || 4 < s.length then none else readBase? 16 s

/-- A byte in decimal with no leading zero. -/
def readByte? (s : List Char) : Option Nat :=
  if s.isEmpty || 3 < s.length || !s.all Char.isDigit || (1 < s.length && s.head? == some '0') then
    none
  else if value s ≤ 255 then some (value s)
  else none

/-- The two pieces of four bytes with dots between them. -/
def readDotted? (s : List Char) : Option (List Nat) :=
  match (splitWhere (· == '.') s).mapM readByte? with
  | some [a, b, c, d] => some [a * 256 + b, c * 256 + d]
  | _ => none

/-- The pieces of groups, the last of which may be an IPv4 address if `dotted` allows it. -/
def readGroups? (dotted : Bool) : List (List Char) → Option (List Nat)
  | [] => some []
  | [g] =>
    match readPiece? g with
    | some p => some [p]
    | none => if dotted then readDotted? g else none
  | g :: h :: rest => do
    let p ← readPiece? g
    let ps ← readGroups? dotted (h :: rest)
    return p :: ps

/-- The pieces of one side of `::`. -/
def readSide? (dotted : Bool) (s : List Char) : Option (List Nat) :=
  if s.isEmpty then some [] else readGroups? dotted (splitWhere (· == ':') s)

/-- What stands before and after the first `::`. -/
def splitGap : List Char → Option (List Char × List Char)
  | ':' :: ':' :: r => some ([], r)
  | c :: r => (splitGap r).map fun (left, right) => (c :: left, right)
  | [] => none

/-- The eight pieces of an address; `::` stands for one or more zeros. -/
def readIpv6? (s : List Char) : Option (List Nat) :=
  match splitGap s with
  | none => do
    let ps ← readSide? true s
    if ps.length = 8 then some ps else none
  | some (left, right) => do
    let ls ← readSide? false left
    let rs ← readSide? true right
    if ls.length + rs.length ≤ 7 then
      some (ls ++ List.replicate (8 - ls.length - rs.length) 0 ++ rs)
    else none

/-! ### Hosts -/

/-- The text between brackets, if brackets stand at both ends. -/
def bracketed? (s : List Char) : Option (List Char) :=
  match s with
  | '[' :: r => if r.getLast? == some ']' then some r.dropLast else none
  | _ => none

/-- An IPv6 address in brackets. -/
def Host.parseBracketed (s : List Char) : Except Error Host :=
  match (bracketed? s).bind readIpv6? with
  | some pieces => .ok (.ipv6 pieces)
  | none => .error .invalidIpv6

/-- The host of a URL with a well-known scheme. -/
def Host.parse (s : List Char) : Except Error Host :=
  if s.head? == some '[' then Host.parseBracketed s
  else
    match (Percent.decodeTerm? s).bind Domain.toAscii? with
    | none => .error .invalidDomain
    | some [] => .error .emptyHost
    | some name =>
      if endsInNumber name then
        match readIpv4? name with
        | some address => .ok (.ipv4 address)
        | none => .error .invalidIpv4
      else .ok (.domain name)

/-- Characters that no host has. -/
def isForbiddenInHost (c : Char) : Bool :=
  ['\x00', '\t', '\n', '\r', ' ', '#', '/', ':', '<', '>', '?', '@', '[', '\\', ']', '^',
    '|'].contains c

/-- The host of a URL without a well-known scheme. -/
def Host.parsePlain (s : List Char) : Except Error Host :=
  if s.head? == some '[' then Host.parseBracketed s
  else if s.any isForbiddenInHost then .error .invalidHostCharacter
  else .ok (.domain (Percent.encode keepInPlain s))

end Metasearch.Url
