/-!
# Selectors

A selector tells elements apart by their names, attributes and places. It is a chain of conditions
on an element and on elements that are linked to it.

## Main definitions

* `Selector`, `Simple`: chains and conditions.
* `Link`, `AttributeTest`, `Count`: their parts.
-/

namespace Metasearch.Css

/-- How two elements of a chain are linked. -/
inductive Link where
  /-- The second is in the first at any depth. -/
  | descendant
  /-- The second is directly in the first. -/
  | child
  /-- The second comes just after the first. -/
  | next
  /-- The second comes anywhere after the first, in the same element. -/
  | later
deriving DecidableEq, Repr

/-- How the value of an attribute is compared. -/
inductive Comparison where
  /-- It is a text. -/
  | equal
  /-- One of its words is a text. -/
  | word
  /-- It is a text, or begins with it and a hyphen. -/
  | dash
  /-- It begins with a text. -/
  | start
  /-- It ends with a text. -/
  | finish
  /-- It contains a text. -/
  | inside
deriving DecidableEq, Repr

/-- Whether capitals count. -/
inductive Capitals where
  /-- They count. -/
  | count
  /-- They do not count. -/
  | ignored
  /-- They do not count in text documents. -/
  | ignoredInText
deriving DecidableEq, Repr

/-- A condition on an attribute. -/
structure AttributeTest where
  /-- The name of the attribute. -/
  name : List Char
  /-- Whether the attribute may be from a vocabulary for attributes. -/
  anyVocabulary : Bool
  /-- How its value is compared, and to what; that there is one is enough otherwise. -/
  value : Option (Comparison × List Char × Capitals)
deriving DecidableEq, Repr

/-- A condition on the number of an element among those beside it: it is `b` more than a multiple
of `a`, with no negative factor. -/
structure Count where
  /-- The step. -/
  a : Int
  /-- The first number. -/
  b : Int
  /-- Whether elements are counted from the last one on. -/
  fromEnd : Bool
  /-- Whether only elements of the same name are counted. -/
  ofType : Bool
deriving DecidableEq, Repr

mutual
/-- A chain of conditions. -/
inductive Selector where
  /-- Conditions on one element. -/
  | alone (conditions : List Simple)
  /-- Conditions on an element that is linked to another one. -/
  | linked (left : Selector) (link : Link) (conditions : List Simple)
/-- A condition on one element. -/
inductive Simple where
  /-- It has a name. -/
  | type (name : List Char)
  /-- It has any name. -/
  | any
  /-- It is from no vocabulary. -/
  | noVocabulary
  /-- It has an identifier. -/
  | id (text : List Char)
  /-- It is of a class. -/
  | ofClass (text : List Char)
  /-- It has an attribute. -/
  | attribute (test : AttributeTest)
  /-- It has a place among those beside it. -/
  | count (count : Count)
  /-- It is the outermost element. -/
  | root
  /-- It has neither elements nor text in it. -/
  | empty
  /-- It is the element in which is searched. -/
  | scope
  /-- One of some selectors holds of it. -/
  | isAny (selectors : List Selector)
  /-- None of some selectors holds of it. -/
  | isNone (selectors : List Selector)
  /-- One of some selectors holds of an element that is linked to it. -/
  | has (selectors : List Selector)
  /-- It is the element of which `has` is asked. -/
  | anchor
  /-- No element is meant. -/
  | never
end

end Metasearch.Css
