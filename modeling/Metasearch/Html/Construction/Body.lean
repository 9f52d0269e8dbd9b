import Metasearch.Html.Construction.Head

/-!
# The body of a document

In the body each tag has a rule of its own, by the group of its element.
-/

namespace Metasearch.Html.Builder

/-- The name of the item that the start of another one ends: it is looked for outwards up to an
element that items are not pulled out of. -/
def itemToClose (names : List String) : List Open → Option String
  | [] => none
  | o :: r =>
    if o.isOneOf names then some o.name.text
    else if o.isOneOf Groups.special && !o.isOneOf ["address", "div", "p"] then none
    else itemToClose names r

/-- The builder with a new item of a list. -/
def enterItem (b : Builder) (t : Tag) : Builder :=
  let names := if t.name == "li" then ["li"] else ["dd", "dt"]
  let b := b.noFrames
  let b := match itemToClose names b.stack with
    | some name => (b.closeImplied Groups.implied name).closeThrough [name]
    | none => b
  b.endParagraph.enter t

/-- The builder with a new button. A button may not stand in another one. -/
def enterButton (b : Builder) (t : Tag) : Builder :=
  let b := if b.inScope Open.isBoundary ["button"] then b.closeElement "button" else b
  (b.restoreFormats.enter t).noFrames

/-- The builder with a new form. A form may not stand in another one. -/
def enterForm (b : Builder) (t : Tag) : Builder :=
  let inTemplate := b.hasOpen "template"
  if b.form.isSome && !inTemplate then b
  else
    let b := b.endParagraph
    let (b, o) := b.add ⟨.html, t.name⟩ t.attributes
    let b := b.push o
    if inTemplate then b else { b with form := some o.id }

/-- The builder with a form closed. -/
def closeForm (b : Builder) : Builder :=
  if b.hasOpen "template" then
    if b.inScope Open.isBoundary ["form"] then b.closeElement "form" else b
  else
    match b.form with
    | none => b
    | some n =>
      let b := { b with form := none }
      if findsBefore Open.isBoundary (fun o => o.id == n) b.stack then
        (b.closeImplied Groups.implied "").forget n
      else b

/-- The builder with a new list to choose from. -/
def enterSelect (b : Builder) (t : Tag) : Builder :=
  let mode := match b.mode with
    | .inTable | .inCaption | .inSection | .inRow | .inCell => .inSelectInTable
    | _ => .inSelect
  { (b.restoreFormats.enter t).noFrames with mode }

/-- Holds of fields that are not shown. -/
def isHidden (t : Tag) : Bool :=
  match t.attribute? "type" with
  | some v => Text.lower v.toList == "hidden".toList
  | none => false

/-- The builder with a new empty element in a line. -/
def addInline (b : Builder) (t : Tag) : Builder :=
  let b' := b.restoreFormats.addEmpty t
  if t.name == "input" && isHidden t then b' else b'.noFrames

/-- The builder with frames in place of the body. -/
def replaceByFrames (b : Builder) (t : Tag) : Builder :=
  match b.body? with
  | some body =>
    if b.framesAllowed then
      let b := { b with document := b.document.detach body.id, stack := b.stack.getLast?.toList }
      { b.enter t with mode := .inFrameset }
    else b
  | none => b

/-- The builder with attributes that the body lacks. -/
def mergeIntoBody (b : Builder) (t : Tag) : Builder :=
  match b.body? with
  | some body =>
    if b.hasOpen "template" then b
    else { b.noFrames with document := b.document.addAttributes body.id t.attributes }
  | none => b

/-- The builder after the start of an element in the body. -/
def startInBody (b : Builder) (t : Tag) : Builder :=
  let name := t.name
  if name == "html" then b.mergeIntoHtml t
  else if Groups.headOnly.contains name then b.addHeadOnly t
  else if name == "body" then b.mergeIntoBody t
  else if name == "frameset" then b.replaceByFrames t
  else if Groups.blocks.contains name then b.endParagraph.enter t
  else if Groups.headings.contains name then
    (b.endParagraph.closeIf Groups.headings).enter t
  else if name == "pre" || name == "listing" then
    { (b.endParagraph.enter t).noFrames with skipsLine := true }
  else if name == "form" then b.enterForm t
  else if ["li", "dd", "dt"].contains name then b.enterItem t
  else if name == "plaintext" then { b.endParagraph.enter t with kind := .plain }
  else if name == "button" then b.enterButton t
  else if name == "a" then b.closeLink.restoreFormats.addFormat t
  else if name == "nobr" then
    let b := b.restoreFormats
    let b := if b.inScope Open.isBoundary ["nobr"] then (b.closeFormat "nobr").restoreFormats else b
    b.addFormat t
  else if Groups.formatting.contains name then b.restoreFormats.addFormat t
  else if Groups.embedded.contains name then (b.restoreFormats.enter t).markFormats.noFrames
  else if name == "table" then
    let b := if b.lenient then b else b.endParagraph
    { (b.enter t).noFrames with mode := .inTable }
  else if Groups.emptyInline.contains name then b.addInline t
  else if Groups.emptyPart.contains name then b.addEmpty t
  else if name == "hr" then (b.endParagraph.addEmpty t).noFrames
  else if name == "image" then b.addInline { t with name := "img" }
  else if name == "textarea" then
    { b.noFrames.enterText t (.escapable name) with skipsLine := true }
  else if name == "xmp" then b.endParagraph.restoreFormats.noFrames.enterText t (.raw name)
  else if name == "iframe" then b.noFrames.enterText t (.raw name)
  else if name == "noembed" || name == "noscript" then b.enterText t (.raw name)
  else if name == "select" then b.enterSelect t
  else if name == "optgroup" || name == "option" then
    (b.closeIf ["option"]).restoreFormats.enter t
  else if name == "rb" || name == "rtc" then
    let b := if b.inScope Open.isBoundary ["ruby"] then b.closeImplied Groups.implied "" else b
    b.enter t
  else if name == "rp" || name == "rt" then
    let b := if b.inScope Open.isBoundary ["ruby"] then b.closeImplied Groups.implied "rtc" else b
    b.enter t
  else if name == "math" then b.enterForeign .mathml t
  else if name == "svg" then b.enterForeign .svg t
  else if Groups.tableOnly.contains name then b
  else b.restoreFormats.enter t

/-- The builder after the end of an item. -/
def closeItem (b : Builder) (boundary : Open → Bool) (name : String) : Builder :=
  if b.inScope boundary [name] then (b.closeImplied Groups.implied name).closeThrough [name] else b

/-- What the end of an element does in the body. -/
def endInBody (b : Builder) (name : String) : Turn :=
  if name == "template" then b.closeTemplate.done
  else if name == "body" then
    if b.inScope Open.isBoundary ["body"] then { b with mode := .afterBody }.done else b.done
  else if name == "html" then
    if b.inScope Open.isBoundary ["body"] then b.retry .afterBody else b.done
  else if Groups.closedBlocks.contains name then
    (if b.inScope Open.isBoundary [name] then b.closeElement name else b).done
  else if name == "form" then b.closeForm.done
  else if name == "p" then
    let b := if b.inScope Open.isButtonBoundary ["p"] then b else b.enter (Tag.bare "p")
    b.closeParagraph.done
  else if name == "li" then (b.closeItem Open.isListBoundary name).done
  else if name == "dd" || name == "dt" then (b.closeItem Open.isBoundary name).done
  else if Groups.headings.contains name then
    (if b.inScope Open.isBoundary Groups.headings then
      (b.closeImplied Groups.implied "").closeThrough Groups.headings
    else b).done
  else if Groups.formatting.contains name then (b.closeFormat name).done
  else if Groups.embedded.contains name then
    (if b.inScope Open.isBoundary [name] then (b.closeElement name).clearFormats else b).done
  else if name == "br" then (b.addInline (Tag.bare "br")).done
  else (b.closeOther name).done

/-- The end of the text in a template: all templates end. -/
def stopInTemplate (b : Builder) : Turn :=
  if b.hasOpen "template" then
    let b := (b.closeThrough ["template"]).clearFormats
    let b := { b with templates := b.templates.tail }
    b.retry b.modeOfStack
  else b.done

/-- The body. -/
def inBody (b : Builder) : Token → Turn
  | .text s =>
    let b := b.restoreFormats
    ((if isBlankText s then b else b.noFrames).addText s).done
  | .comment s => (b.addComment s).done
  | .start t => (b.startInBody t).done
  | .finish name => b.endInBody name
  | .stop => if b.templates.isEmpty then b.done else b.stopInTemplate
  | .null | .doctype _ => b.done

/-- An element that holds bare text. -/
def inText (b : Builder) : Token → Turn
  | .text s => (b.addText s).done
  | .finish _ => { b.close with mode := b.resume, kind := .ordinary }.done
  | .stop => { b.close with kind := .ordinary }.retry b.resume
  | _ => b.done

/-- After the body. -/
def afterBody (b : Builder) (token : Token) : Turn :=
  match token with
  | .text s => if isBlankText s then b.inBody token else b.retry .inBody
  | .comment s =>
    (match b.stack.getLast? with
      | some o => b.addCommentAt (.lastIn o.id) s
      | none => b).done
  | .start t => if t.name == "html" then (b.mergeIntoHtml t).done else b.retry .inBody
  | .finish name => if name == "html" then { b with mode := .afterHtml }.done else b.retry .inBody
  | .stop => b.done
  | _ => b.retry .inBody

/-- After the outermost element. -/
def afterHtml (b : Builder) (token : Token) : Turn :=
  match token with
  | .text s => if isBlankText s then b.inBody token else b.retry .inBody
  | .comment s => (b.addCommentAt (.lastIn Document.root) s).done
  | .start t => if t.name == "html" then (b.mergeIntoHtml t).done else b.retry .inBody
  | .stop => b.done
  | _ => b.retry .inBody

/-- A set of frames. -/
def inFrameset (b : Builder) (token : Token) : Turn :=
  match token with
  | .text s => (if isBlankText s then b.addText s else b).done
  | .comment s => (b.addComment s).done
  | .start t =>
    match t.name with
    | "html" => (b.mergeIntoHtml t).done
    | "frameset" => (b.enter t).done
    | "frame" => (b.addEmpty t).done
    | "noframes" => (b.addHeadOnly t).done
    | _ => b.done
  | .finish name =>
    if name == "frameset" && 1 < b.stack.length then
      let b := b.close
      (if b.currentIs ["frameset"] then b else { b with mode := .afterFrameset }).done
    else b.done
  | _ => b.done

/-- After a set of frames. -/
def afterFrameset (b : Builder) (token : Token) : Turn :=
  match token with
  | .text s => (if isBlankText s then b.addText s else b).done
  | .comment s => (b.addComment s).done
  | .start t =>
    match t.name with
    | "html" => (b.mergeIntoHtml t).done
    | "noframes" => (b.addHeadOnly t).done
    | _ => b.done
  | .finish name => (if name == "html" then { b with mode := .afterFrames } else b).done
  | _ => b.done

/-- After the outermost element of a document with frames. -/
def afterFrames (b : Builder) (token : Token) : Turn :=
  match token with
  | .text s => if isBlankText s then b.inBody token else b.done
  | .comment s => (b.addCommentAt (.lastIn Document.root) s).done
  | .start t =>
    match t.name with
    | "html" => (b.mergeIntoHtml t).done
    | "noframes" => (b.addHeadOnly t).done
    | _ => b.done
  | _ => b.done

end Metasearch.Html.Builder
