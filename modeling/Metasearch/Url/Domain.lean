import Metasearch.Text.Space
import Metasearch.Url.Domain.Composition
import Metasearch.Url.Domain.Direction
import Metasearch.Url.Domain.Mapping
import Metasearch.Url.Punycode

/-!
# Domain names

A domain name may be written in any script. Its ASCII form is what a URL keeps: each character is
mapped to the one that stands for it, letters are joined with the marks after them, and a label with
characters beyond ASCII is written in Punycode after `xn--`.

## Main definitions

* `isSettled`: labels in their final form.
* `Label.ofText?`: a label in its own script and in ASCII.
* `toAscii?`: the ASCII form of a domain name, if it has one.
-/

namespace Metasearch.Url.Domain

open Metasearch.Text

/-- ASCII characters that no domain name has in its final form. -/
def isForbidden (c : Char) : Bool :=
  c.toNat ≤ 0x20 || c.toNat == 0x7F || c.isUpper ||
    ['%', '#', '/', ':', '<', '>', '?', '@', '[', '\\', ']', '^', '|'].contains c

/-- What marks a label in Punycode. -/
def mark : List Char := ['x', 'n', '-', '-']

/-- Marks that bind a letter to the next one. -/
def isBinding (c : Char) : Bool :=
  classOf c == 9

/-- A label in its final form: its characters stand for themselves, no mark is in front, and joiners
stand where they make a difference. -/
def isSettled (label : List Char) : Bool :=
  composed label == label && !label.head?.any isMark &&
    label.all (fun c => mapChar? c == some [c]) && joinersFit isBinding [] label

/-- A label of a domain name. -/
structure Label where
  /-- The label in its own script. -/
  text : List Char
  /-- The label in ASCII. -/
  ascii : List Char

/-- The label that a mapped text denotes. What is written in Punycode is read back before it is
trusted, so that the form of a form is the form itself. -/
def Label.ofText? (label : List Char) : Option Label :=
  match stripStart mark label with
  | some code =>
    match Punycode.decode? code with
    | none => none
    | some s =>
      if isSettled s && s.any (fun c => 0x80 ≤ c.toNat) && Punycode.encode s == code then
        some ⟨s, label⟩
      else none
  | none =>
    if label.all fun c => c.toNat < 0x80 then some ⟨label, label⟩
    else
      let code := Punycode.encode label
      if isSettled label && Punycode.decode? code == some label then some ⟨label, mark ++ code⟩
      else none

/-- Holds of the labels of a name without letters from right to left, and of labels that run one way
each. -/
def areOneWay (labels : List Label) : Bool :=
  !labels.any (fun l => l.text.any isRightToLeft) || labels.all fun l => isOneWay l.text

/-- The ASCII form of a domain name. -/
def toAscii? (name : List Char) : Option (List Char) := do
  let mapped := composed (← name.mapM mapChar?).flatten
  let labels ← (splitWhere (· == '.') mapped).mapM Label.ofText?
  let result := joinWith ['.'] (labels.map Label.ascii)
  if !areOneWay labels || result.any isForbidden then none else some result

end Metasearch.Url.Domain
