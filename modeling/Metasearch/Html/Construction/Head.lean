import Metasearch.Html.Construction.Foreign
import Metasearch.Text.Space

/-!
# The head of a document

Head and body begin even if no tag says so. What is about the document goes into the head, wherever
in the text it stands before the body.
-/

namespace Metasearch.Html.Builder

/-- Holds of text that is nothing but white space. -/
def isBlankText (s : List Char) : Bool := s.all Text.isMarkupSpace

/-- Holds of end tags that begin what is missing. -/
def beginsMissing (name : String) : Bool := ["body", "html", "br"].contains name

/-- The builder with a new template. -/
def enterTemplate (b : Builder) (t : Tag) : Builder :=
  let b := (b.enter t).markFormats.noFrames
  { b with mode := .inTemplate, templates := .inTemplate :: b.templates }

/-- The builder with a template closed. -/
def closeTemplate (b : Builder) : Builder :=
  if b.hasOpen "template" then
    let b := ((b.closeImplied Groups.impliedByTemplate "").closeThrough ["template"]).clearFormats
    { b with templates := b.templates.tail }.resetMode
  else b

/-- The builder with a new element about the document. -/
def addHeadOnly (b : Builder) (t : Tag) : Builder :=
  match t.name with
  | "title" => b.enterText t (.escapable "title")
  | "noframes" | "style" => b.enterText t (.raw t.name)
  | "script" => b.enterText t .script
  | "template" => b.enterTemplate t
  | _ => b.addEmpty t

/-- The beginning. A document without a declaration is of an early kind. -/
def initial (b : Builder) (token : Token) : Turn :=
  let go := { b with lenient := true }.retry .beforeHtml
  match token with
  | .text s => if isBlankText s then b.done else go
  | .comment s => (b.addCommentAt (.lastIn Document.root) s).done
  | _ => go

/-- The builder with the outermost element. -/
def enterHtml (b : Builder) (attributes : List Attribute) : Builder :=
  let (b, o) := b.create ⟨.html, "html"⟩ attributes
  { b with document := b.document.insert (.lastIn Document.root) o.id }.push o

/-- Before the outermost element. -/
def beforeHtml (b : Builder) (token : Token) : Turn :=
  let go := (b.enterHtml []).retry .beforeHead
  match token with
  | .text s => if isBlankText s then b.done else go
  | .comment s => (b.addCommentAt (.lastIn Document.root) s).done
  | .start t =>
    if t.name == "html" then { b.enterHtml t.attributes with mode := .beforeHead }.done else go
  | .finish name => if name == "head" || beginsMissing name then go else b.done
  | _ => go

/-- The builder with the head. -/
def enterHead (b : Builder) (t : Tag) : Builder :=
  let (b, o) := b.add ⟨.html, "head"⟩ t.attributes
  { b.push o with head := some o }

/-- Before the head. -/
def beforeHead (b : Builder) (token : Token) : Turn :=
  let go := (b.enterHead (Tag.bare "head")).retry .inHead
  match token with
  | .text s => if isBlankText s then b.done else go
  | .comment s => (b.addComment s).done
  | .start t =>
    if t.name == "html" then (b.mergeIntoHtml t).done
    else if t.name == "head" then { b.enterHead t with mode := .inHead }.done
    else go
  | .finish name => if name == "head" || beginsMissing name then go else b.done
  | _ => go

/-- The head. -/
def inHead (b : Builder) (token : Token) : Turn :=
  let go := b.close.retry .afterHead
  match token with
  | .text s => if isBlankText s then (b.addText s).done else go
  | .comment s => (b.addComment s).done
  | .start t =>
    if t.name == "html" then (b.mergeIntoHtml t).done
    else if t.name == "noscript" then (b.enterText t (.raw t.name)).done
    else if Groups.headOnly.contains t.name then (b.addHeadOnly t).done
    else if t.name == "head" then b.done
    else go
  | .finish name =>
    if name == "head" then { b.close with mode := .afterHead }.done
    else if name == "template" then b.closeTemplate.done
    else if beginsMissing name then go
    else b.done
  | _ => go

/-- The builder with a new element about the document, after the head. -/
def addToHead (b : Builder) (t : Tag) : Builder :=
  match b.head with
  | some head => ((b.push head).addHeadOnly t).forget head.id
  | none => b.addHeadOnly t

/-- Between head and body. -/
def afterHead (b : Builder) (token : Token) : Turn :=
  let go := (b.enter (Tag.bare "body")).retry .inBody
  match token with
  | .text s => if isBlankText s then (b.addText s).done else go
  | .comment s => (b.addComment s).done
  | .start t =>
    if t.name == "html" then (b.mergeIntoHtml t).done
    else if t.name == "body" then { (b.enter t).noFrames with mode := .inBody }.done
    else if t.name == "frameset" then { b.enter t with mode := .inFrameset }.done
    else if Groups.headOnly.contains t.name then (b.addToHead t).done
    else if t.name == "head" then b.done
    else go
  | .finish name =>
    if name == "template" then b.closeTemplate.done
    else if beginsMissing name then go
    else b.done
  | _ => go

end Metasearch.Html.Builder
