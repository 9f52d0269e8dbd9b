import Metasearch.Css.Selector
import Metasearch.Html.Document
import Metasearch.Text.Space

/-!
# Searching documents

A selector holds of an element if its conditions hold of the element, and the rest of the chain
holds of an element that is linked to it.

## Main definitions

* `Scene`: where a search takes place.
* `Selector.holds`, `Simple.holds`: what selectors and conditions mean.
* `selectAll`, `selectIn`: the elements that a search finds.
-/

namespace Metasearch.Css

open Metasearch.Html Metasearch.Text

/-- Where a search takes place. -/
structure Scene where
  /-- The document. -/
  document : Document
  /-- The element in which is searched; the whole document if there is none. -/
  scope : Option NodeId
  /-- The element of which `has` is asked. -/
  anchor : Option NodeId

namespace Scene

variable (v : Scene)

/-- Holds of elements of text documents. -/
def isTextElement (n : NodeId) : Bool :=
  (v.document.name? n).any fun name => name.vocabulary == .html

/-- A name as it is compared to that of an element or its attributes. -/
def compared (n : NodeId) (name : List Char) : String :=
  String.ofList (if v.isTextElement n then lower name else name)

/-- Holds if a value compares to a text. No value begins or ends with, or has in it, the empty
text. -/
def compares (comparison : Comparison) (text value : List Char) : Bool :=
  match comparison with
  | .equal => value == text
  | .word => !text.isEmpty && (splitWhere isMarkupSpace value).contains text
  | .dash => value == text || (text ++ ['-']).isPrefixOf value
  | .start => !text.isEmpty && text.isPrefixOf value
  | .finish => !text.isEmpty && text.reverse.isPrefixOf value.reverse
  | .inside => !text.isEmpty && occursIn text value

/-- Holds if the value of an attribute is as a test asks. -/
def valueHolds (n : NodeId) (test : Option (Comparison × List Char × Capitals))
    (value : List Char) : Bool :=
  match test with
  | none => true
  | some (comparison, text, capitals) =>
    let ignored := match capitals with
      | .count => false
      | .ignored => true
      | .ignoredInText => v.isTextElement n
    if ignored then compares comparison (lower text) (lower value)
    else compares comparison text value

/-- Holds if an element has an attribute as a test asks. -/
def attributeHolds (n : NodeId) (t : AttributeTest) : Bool :=
  let name := v.compared n t.name
  (v.document.attributes n).any fun a =>
    (t.anyVocabulary || !a.qualified) && a.name == name &&
      v.valueHolds n t.value a.value.toList

/-- The number of an element among those beside it, from one on. -/
def number (n : NodeId) (fromEnd ofType : Bool) : Int :=
  let beside := if fromEnd then v.document.elementsAfter n else v.document.elementsBefore n
  let counted := if ofType then
      beside.filter fun m => v.document.name? m == v.document.name? n
    else beside
  counted.length + 1

/-- Holds if the number of an element is as a condition asks. -/
def countHolds (n : NodeId) (c : Count) : Bool :=
  let rest := v.number n c.fromEnd c.ofType - c.b
  if c.a = 0 then rest == 0 else rest % c.a == 0 && 0 ≤ rest / c.a

/-- Holds if an element has an identifier. -/
def hasId (n : NodeId) (text : List Char) : Bool :=
  (v.document.attributes n).find? (fun a => a.name == "id") |>.any fun a => a.value.toList == text

/-- Holds if an element is of a class. -/
def isOfClass (n : NodeId) (text : List Char) : Bool :=
  (v.document.attributes n).any fun a =>
    a.name == "class" &&
      ((splitWhere isSpace a.value.toList).filter (!·.isEmpty)).contains text

/-- Holds if an element has neither elements nor text in it. -/
def isEmpty (n : NodeId) : Bool :=
  (v.document.children n).all fun m => !v.document.isElement m && !v.document.isText m

/-- The elements that the rest of a chain may hold of. -/
def linked (link : Link) (n : NodeId) : List NodeId :=
  match link with
  | .child => (v.document.parentElement? n).toList
  | .descendant => v.document.ancestors n
  | .next => (v.document.elementsBefore n).take 1
  | .later => v.document.elementsBefore n

/-- The elements that a relative selector may hold of: those in an element, those after it, and
those in these. -/
def around (n : NodeId) : List NodeId :=
  v.document.innerElements n ++
    (v.document.elementsAfter n).flatMap fun m => m :: v.document.innerElements m

end Scene

mutual
/-- Holds of the elements that a chain means. -/
def Selector.holds : Selector → Scene → NodeId → Bool
  | .alone conditions, v, n => conditionsHold conditions v n
  | .linked left link conditions, v, n =>
    conditionsHold conditions v n && (v.linked link n).any fun m => left.holds v m
/-- Holds of the elements that a condition means. -/
def Simple.holds : Simple → Scene → NodeId → Bool
  | .type name, v, n => (v.document.name? n).any fun m => m.text == v.compared n name
  | .any, _, _ => true
  | .noVocabulary, _, _ => false
  | .id text, v, n => v.hasId n text
  | .ofClass text, v, n => v.isOfClass n text
  | .attribute test, v, n => v.attributeHolds n test
  | .count c, v, n => v.countHolds n c
  | .root, v, n => v.document.isOutermost n
  | .empty, v, n => v.isEmpty n
  | .scope, v, n =>
    match v.scope with
    | some s => s == n
    | none => v.document.isOutermost n
  | .isAny selectors, v, n => oneHolds selectors v n
  | .isNone selectors, v, n => !oneHolds selectors v n
  | .has selectors, v, n => oneReaches selectors v n
  | .anchor, v, n => v.anchor == some n
  | .never, _, _ => false
/-- Holds of the elements of which all conditions hold. -/
def conditionsHold : List Simple → Scene → NodeId → Bool
  | [], _, _ => true
  | c :: r, v, n => c.holds v n && conditionsHold r v n
/-- Holds of the elements of which one selector holds. -/
def oneHolds : List Selector → Scene → NodeId → Bool
  | [], _, _ => false
  | s :: r, v, n => s.holds v n || oneHolds r v n
/-- Holds of the elements around which one selector holds of an element. -/
def oneReaches : List Selector → Scene → NodeId → Bool
  | [], _, _ => false
  | s :: r, v, n =>
    (v.around n).any (fun m => s.holds { v with anchor := some n } m) || oneReaches r v n
end

/-- The elements of a document that one of some selectors means, in the order in which they were
made. -/
def selectAll (d : Document) (selectors : List Selector) : List NodeId :=
  d.elements.filter fun n => oneHolds selectors ⟨d, none, none⟩ n

/-- The elements in an element that one of some selectors means, in the order of the text. -/
def selectIn (d : Document) (n : NodeId) (selectors : List Selector) : List NodeId :=
  (d.descendants n).filter fun m =>
    d.isElement m && oneHolds selectors ⟨d, some n, none⟩ m

/-- Holds if one of some selectors means an element. -/
def isMeant (d : Document) (n : NodeId) (selectors : List Selector) : Bool :=
  oneHolds selectors ⟨d, none, none⟩ n

end Metasearch.Css
