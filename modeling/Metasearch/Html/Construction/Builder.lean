import Metasearch.Html.Construction.Groups
import Metasearch.Html.Token

/-!
# Trees under construction

A tree grows token by token. What a token does depends on the mode, which tells what part of a
document is at hand, and on the elements that are open. Only the innermost open element is added to,
except that what does not belong into a table is put before it.

## Main definitions

* `Mode`, `Open`, `Format`, `Builder`.
* `Builder.inScope`, `Builder.closeUntil`, `Builder.closeImplied`: the open elements.
* `Builder.place`, `Builder.enter`, `Builder.addText`: what is added.
* `Builder.modeOfStack`: the mode that the open elements call for.
* `Turn`: a builder after a token, or before another look at it.
-/

namespace Metasearch.Html

/-- What part of a document is at hand. -/
inductive Mode where
  /-- The beginning. -/
  | initial
  /-- Before the outermost element. -/
  | beforeHtml
  /-- Before the head. -/
  | beforeHead
  /-- The head. -/
  | inHead
  /-- Between head and body. -/
  | afterHead
  /-- The body. -/
  | inBody
  /-- An element that holds bare text. -/
  | inText
  /-- A table. -/
  | inTable
  /-- Text that stands directly in a table. -/
  | inTableText
  /-- The caption of a table. -/
  | inCaption
  /-- The columns of a table. -/
  | inColumns
  /-- A section of a table. -/
  | inSection
  /-- A row of a table. -/
  | inRow
  /-- A cell of a table. -/
  | inCell
  /-- A list to choose from. -/
  | inSelect
  /-- A list to choose from, in a table. -/
  | inSelectInTable
  /-- A template. -/
  | inTemplate
  /-- After the body. -/
  | afterBody
  /-- A set of frames. -/
  | inFrameset
  /-- After a set of frames. -/
  | afterFrameset
  /-- After the outermost element. -/
  | afterHtml
  /-- After the outermost element of a document with frames. -/
  | afterFrames
deriving DecidableEq, Repr

/-- An element that is open. -/
structure Open where
  /-- The number of its node. -/
  id : NodeId
  /-- Its name. -/
  name : Name
deriving DecidableEq, Repr

namespace Open

/-- Holds of elements of text documents with one of some names. -/
def isOneOf (o : Open) (names : List String) : Bool :=
  o.name.vocabulary == .html && names.contains o.name.text

/-- Holds of elements of text documents with a name. -/
def isNamed (o : Open) (name : String) : Bool := o.isOneOf [name]

/-- Holds of the elements of formulas that hold text. -/
def holdsFormulaText (o : Open) : Bool :=
  o.name.vocabulary == .mathml && ["mi", "mo", "mn", "ms", "mtext"].contains o.name.text

/-- Holds of the elements of drawings that hold text documents. -/
def holdsMarkup (o : Open) : Bool :=
  o.name.vocabulary == .svg && ["foreignObject", "desc", "title"].contains o.name.text

/-- Holds of elements that an end tag is not looked for beyond. -/
def isBoundary (o : Open) : Bool :=
  o.isOneOf Groups.scope || o.holdsFormulaText || o.holdsMarkup

/-- Holds of elements that the end of a list item is not looked for beyond. -/
def isListBoundary (o : Open) : Bool := o.isBoundary || o.isOneOf ["ol", "ul"]

/-- Holds of elements that the end of a paragraph is not looked for beyond. -/
def isButtonBoundary (o : Open) : Bool := o.isBoundary || o.isNamed "button"

/-- Holds of elements that the end of a part of a table is not looked for beyond. -/
def isTableBoundary (o : Open) : Bool := o.isOneOf ["html", "table", "template"]

/-- Holds of elements that the end of a list to choose from is not looked for beyond. -/
def isSelectBoundary (o : Open) : Bool := !o.isOneOf ["optgroup", "option"]

end Open

/-- An entry in the list of the looks that text has at a place. -/
inductive Format where
  /-- What comes before is out of reach. -/
  | marker
  /-- An element with the tag that began it. -/
  | element (id : NodeId) (tag : Tag)
deriving DecidableEq, Repr

namespace Format

/-- Holds of entries for elements. -/
def isElement : Format → Bool
  | .marker => false
  | .element _ _ => true

/-- Holds of the entry for an element. -/
def isFor (n : NodeId) : Format → Bool
  | .marker => false
  | .element m _ => m == n

end Format

/-- A tree under construction. -/
structure Builder where
  /-- The nodes. -/
  document : Document
  /-- What part of the document is at hand. -/
  mode : Mode
  /-- The mode to go back to after text. -/
  resume : Mode
  /-- The modes of the templates that are open, the innermost first. -/
  templates : List Mode
  /-- The elements that are open, the innermost first. -/
  stack : List Open
  /-- The looks of text, the last one first. -/
  formats : List Format
  /-- The head. -/
  head : Option Open
  /-- The form that is open. -/
  form : Option NodeId
  /-- Whether frames may still take the place of the body. -/
  framesAllowed : Bool
  /-- Whether the document is of an early kind, in which a table may stand in a paragraph. -/
  lenient : Bool
  /-- Whether what is added to a table is put before it. -/
  fostering : Bool
  /-- Text directly in a table that has no place yet. -/
  pending : List Char
  /-- Whether a line feed at the beginning of the next text does not count. -/
  skipsLine : Bool
  /-- How what follows is read. -/
  kind : TextKind

/-- A builder after a token, or before another look at the same token. -/
structure Turn where
  /-- The builder. -/
  builder : Builder
  /-- Whether the token is looked at again. -/
  again : Bool

namespace Builder

/-- Nothing has been built. -/
def start : Builder where
  document := Document.empty
  mode := .initial
  resume := .initial
  templates := []
  stack := []
  formats := []
  head := none
  form := none
  framesAllowed := true
  lenient := false
  fostering := false
  pending := []
  skipsLine := false
  kind := .ordinary

/-- The builder as it is after the token. -/
def done (b : Builder) : Turn := ⟨b, false⟩

/-- The builder in another mode, in which the token is looked at again. -/
def retry (b : Builder) (mode : Mode) : Turn := ⟨{ b with mode }, true⟩

/-! ### Open elements -/

/-- Holds if the innermost open element has one of some names. -/
def currentIs (b : Builder) (names : List String) : Bool :=
  match b.stack with
  | o :: _ => o.isOneOf names
  | [] => false

/-- Holds if an element with one of some names is open anywhere. -/
def hasOpen (b : Builder) (name : String) : Bool := b.stack.any fun o => o.isNamed name

/-- Holds if an element is found on the way outwards before, or at, a boundary. -/
def findsBefore (boundary found : Open → Bool) : List Open → Bool
  | [] => false
  | o :: r => found o || (!boundary o && findsBefore boundary found r)

/-- Holds if an element with one of some names is open within a boundary. -/
def inScope (b : Builder) (boundary : Open → Bool) (names : List String) : Bool :=
  findsBefore boundary (fun o => o.isOneOf names) b.stack

/-- The builder with the innermost element closed. -/
def close (b : Builder) : Builder := { b with stack := b.stack.tail }

/-- The builder with the innermost element closed if it has one of some names. -/
def closeIf (b : Builder) (names : List String) : Builder :=
  if b.currentIs names then b.close else b

/-- The builder with all elements closed up to the first with one of some names, and that one. -/
def closeThrough (b : Builder) (names : List String) : Builder :=
  { b with stack := (b.stack.dropWhile fun o => !o.isOneOf names).tail }

/-- The builder with all elements closed up to the first with one of some names. -/
def closeUntil (b : Builder) (names : List String) : Builder :=
  { b with stack := b.stack.dropWhile fun o => !o.isOneOf names }

/-- The builder with the innermost elements closed as long as they are of a group, but not of a
name. -/
def closeImplied (b : Builder) (group : List String) (keep : String) : Builder :=
  { b with stack := b.stack.dropWhile fun o => o.isOneOf group && !o.isNamed keep }

/-- The builder with an element and all in it closed, as its end tag says. -/
def closeElement (b : Builder) (name : String) : Builder :=
  (b.closeImplied Groups.implied "").closeThrough [name]

/-- The builder with a paragraph closed. -/
def closeParagraph (b : Builder) : Builder :=
  (b.closeImplied Groups.implied "p").closeThrough ["p"]

/-- The builder with the paragraph closed in which a block may not stand. -/
def endParagraph (b : Builder) : Builder :=
  if b.inScope Open.isButtonBoundary ["p"] then b.closeParagraph else b

/-- The builder with an element taken out of those that are open. -/
def forget (b : Builder) (n : NodeId) : Builder :=
  { b with stack := b.stack.filter fun o => o.id != n }

/-- The builder with the looks of text as they were before the last marker. -/
def clearFormats (b : Builder) : Builder :=
  { b with formats := (b.formats.dropWhile Format.isElement).tail }

/-- The builder with a marker after the looks of text. -/
def markFormats (b : Builder) : Builder := { b with formats := .marker :: b.formats }

/-! ### Adding to the tree -/

/-- The node that holds what is in an open element: a template has one of its own. -/
def holder (b : Builder) (o : Open) : NodeId :=
  if o.isNamed "template" then ((b.document.children o.id).head?).getD o.id else o.id

/-- The place for what does not belong into the innermost table. -/
def fosterPlace (b : Builder) : List Open → Place
  | [] => .lastIn Document.root
  | o :: r =>
    if o.isNamed "template" then .lastIn (b.holder o)
    else if o.isNamed "table" then
      if (b.document.parent? o.id).isSome then .before o.id
      else .lastIn ((r.head?.map Open.id).getD Document.root)
    else if r.isEmpty then .lastIn o.id
    else b.fosterPlace r

/-- The place for what is added to an element. -/
def placeIn (b : Builder) (o : Open) : Place :=
  if b.fostering && o.isOneOf Groups.tableFrame then b.fosterPlace b.stack
  else .lastIn (b.holder o)

/-- The place for what is added next. -/
def place (b : Builder) : Place :=
  match b.stack with
  | o :: _ => b.placeIn o
  | [] => .lastIn Document.root

/-- The builder with a new element, which is not in the tree yet. -/
def create (b : Builder) (name : Name) (attributes : List Attribute) : Builder × Open :=
  let (d, n) := b.document.create (.element name attributes)
  if name = ⟨.html, "template"⟩ then
    let (d, m) := d.create .fragment
    ({ b with document := d.insert (.lastIn n) m }, ⟨n, name⟩)
  else ({ b with document := d }, ⟨n, name⟩)

/-- The builder with a new element at the next place. -/
def add (b : Builder) (name : Name) (attributes : List Attribute) : Builder × Open :=
  let (b, o) := b.create name attributes
  ({ b with document := b.document.insert b.place o.id }, o)

/-- The builder with an element among those that are open. -/
def push (b : Builder) (o : Open) : Builder := { b with stack := o :: b.stack }

/-- The builder with a new element at the next place that is open from now on. -/
def enter (b : Builder) (t : Tag) : Builder :=
  let (b, o) := b.add ⟨.html, t.name⟩ t.attributes
  b.push o

/-- The builder with a new element at the next place that has nothing in it. -/
def addEmpty (b : Builder) (t : Tag) : Builder := (b.add ⟨.html, t.name⟩ t.attributes).1

/-- The builder with text at the next place. -/
def addText (b : Builder) (s : List Char) : Builder :=
  if s.isEmpty then b else { b with document := b.document.write b.place s }

/-- The builder with a comment at a place. -/
def addCommentAt (b : Builder) (place : Place) (s : List Char) : Builder :=
  let (d, n) := b.document.create (.comment s)
  { b with document := d.insert place n }

/-- The builder with a comment at the next place. -/
def addComment (b : Builder) (s : List Char) : Builder := b.addCommentAt b.place s

/-- The builder with a new element that holds text of a kind. -/
def enterText (b : Builder) (t : Tag) (kind : TextKind) : Builder :=
  { b.enter t with resume := b.mode, mode := .inText, kind }

/-- The builder without the choice of frames for a body. -/
def noFrames (b : Builder) : Builder := { b with framesAllowed := false }

/-- The builder with attributes that the outermost element lacks. -/
def mergeIntoHtml (b : Builder) (t : Tag) : Builder :=
  match b.stack.getLast? with
  | some o =>
    if b.hasOpen "template" then b
    else { b with document := b.document.addAttributes o.id t.attributes }
  | none => b

/-- The body, if it is open. -/
def body? (b : Builder) : Option Open :=
  match b.stack.reverse with
  | _ :: o :: _ => if o.isNamed "body" then some o else none
  | _ => none

/-! ### The mode that the open elements call for -/

/-- The mode for a list to choose from, by what it is in. -/
def selectMode : List Open → Mode
  | [] => .inSelect
  | o :: r =>
    if o.isNamed "template" then .inSelect
    else if o.isNamed "table" then .inSelectInTable
    else selectMode r

/-- The mode that open elements call for, the innermost first. -/
def modeOf (b : Builder) : List Open → Mode
  | [] => .inBody
  | o :: r =>
    if o.name.vocabulary != .html then b.modeOf r
    else
      match o.name.text with
      | "select" => selectMode r
      | "td" | "th" => if r.isEmpty then b.modeOf r else .inCell
      | "tr" => .inRow
      | "tbody" | "thead" | "tfoot" => .inSection
      | "caption" => .inCaption
      | "colgroup" => .inColumns
      | "table" => .inTable
      | "template" => b.templates.headD .inBody
      | "head" => if r.isEmpty then b.modeOf r else .inHead
      | "body" => .inBody
      | "frameset" => .inFrameset
      | "html" => if b.head.isNone then .beforeHead else .afterHead
      | _ => b.modeOf r

/-- The mode that the open elements call for. -/
def modeOfStack (b : Builder) : Mode := b.modeOf b.stack

/-- The builder in the mode that the open elements call for. -/
def resetMode (b : Builder) : Builder := { b with mode := b.modeOfStack }

end Builder
end Metasearch.Html
