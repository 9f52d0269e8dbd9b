import Metasearch.Html.Construction.Body

/-!
# Tables, lists to choose from, templates

Only parts of a table may stand in a table. Parts that are left out are put in, and all else is put
before the table.
-/

namespace Metasearch.Html.Builder

/-- A turn by the rules of the body in which what does not belong into a table is put before it. -/
def fostered (b : Builder) (token : Token) : Turn :=
  let turn := { b with fostering := true }.inBody token
  ⟨{ turn.builder with fostering := false }, turn.again⟩

/-- Holds of end tags that mean nothing in a table. -/
def isStrayInTable (name : String) : Bool :=
  ["body", "html"].contains name || (Groups.tableOnly.contains name && name != "head" &&
    name != "frame")

/-- A table. -/
def inTable (b : Builder) (token : Token) : Turn :=
  let inside := ["table", "template", "html"]
  let text : Turn :=
    if b.currentIs Groups.tableFrame then { b with resume := b.mode }.retry .inTableText
    else b.fostered token
  match token with
  | .text _ | .null => text
  | .comment s => (b.addComment s).done
  | .start t =>
    let name := t.name
    if name == "caption" then
      { (b.closeUntil inside).markFormats.enter t with mode := .inCaption }.done
    else if name == "colgroup" then { (b.closeUntil inside).enter t with mode := .inColumns }.done
    else if name == "col" then
      ((b.closeUntil inside).enter (Tag.bare "colgroup")).retry .inColumns
    else if Groups.sections.contains name then
      { (b.closeUntil inside).enter t with mode := .inSection }.done
    else if name == "tr" || Groups.cells.contains name then
      ((b.closeUntil inside).enter (Tag.bare "tbody")).retry .inSection
    else if name == "table" then
      if b.inScope Open.isTableBoundary ["table"] then
        let b := b.closeThrough ["table"]
        b.retry b.modeOfStack
      else b.done
    else if ["style", "script", "template"].contains name then (b.addHeadOnly t).done
    else if name == "input" && isHidden t then (b.addEmpty t).done
    else if name == "form" then
      if b.form.isNone && !b.hasOpen "template" then
        let (b, o) := b.add ⟨.html, name⟩ t.attributes
        { b with form := some o.id }.done
      else b.done
    else b.fostered token
  | .finish name =>
    if name == "table" then
      (if b.inScope Open.isTableBoundary ["table"] then (b.closeThrough ["table"]).resetMode
      else b).done
    else if isStrayInTable name then b.done
    else if name == "template" then b.closeTemplate.done
    else b.fostered token
  | .stop => b.inBody token
  | .doctype _ => b.done

/-- Text directly in a table. It stays there only if it is nothing but white space. -/
def inTableText (b : Builder) (token : Token) : Turn :=
  match token with
  | .null => b.done
  | .text s => { b with pending := b.pending ++ s }.done
  | _ =>
    let s := b.pending
    let b := { b with pending := [] }
    let b :=
      if s.isEmpty then b
      else if isBlankText s then b.addText s
      else (b.fostered (.text s)).builder
    b.retry b.resume

/-- Names of which the start ends a caption. -/
def endsCaption (name : String) : Bool :=
  Groups.tableOnly.contains name && name != "head" && name != "frame"

/-- The caption of a table. -/
def inCaption (b : Builder) (token : Token) : Turn :=
  let leave (finished : Bool) : Turn :=
    if b.inScope Open.isTableBoundary ["caption"] then
      let b := (b.closeElement "caption").clearFormats
      if finished then { b with mode := .inTable }.done else b.retry .inTable
    else b.done
  match token with
  | .start t => if endsCaption t.name then leave false else b.inBody token
  | .finish name =>
    if name == "caption" then leave true
    else if name == "table" then leave false
    else if isStrayInTable name then b.done
    else b.inBody token
  | _ => b.inBody token

/-- The columns of a table. -/
def inColumns (b : Builder) (token : Token) : Turn :=
  let go : Turn := if b.currentIs ["colgroup"] then b.close.retry .inTable else b.done
  match token with
  | .text s => if isBlankText s then (b.addText s).done else go
  | .comment s => (b.addComment s).done
  | .start t =>
    match t.name with
    | "html" => (b.mergeIntoHtml t).done
    | "col" => (b.addEmpty t).done
    | "template" => (b.addHeadOnly t).done
    | _ => go
  | .finish name =>
    match name with
    | "colgroup" =>
      (if b.currentIs ["colgroup"] then { b.close with mode := .inTable } else b).done
    | "col" => b.done
    | "template" => b.closeTemplate.done
    | _ => go
  | .stop => b.inBody token
  | _ => go

/-- A section of a table. -/
def inSection (b : Builder) (token : Token) : Turn :=
  let inside := ["tbody", "tfoot", "thead", "template", "html"]
  let leave : Turn :=
    if b.inScope Open.isTableBoundary ["table", "tbody", "tfoot"] then
      (b.closeUntil inside).close.retry .inTable
    else b.done
  match token with
  | .start t =>
    if t.name == "tr" then { (b.closeUntil inside).enter t with mode := .inRow }.done
    else if Groups.cells.contains t.name then
      ((b.closeUntil inside).enter (Tag.bare "tr")).retry .inRow
    else if ["caption", "col", "colgroup", "tbody", "tfoot", "thead"].contains t.name then leave
    else b.inTable token
  | .finish name =>
    if Groups.sections.contains name then
      (if b.inScope Open.isTableBoundary [name] then
        { (b.closeUntil inside).close with mode := .inTable }
      else b).done
    else if name == "table" then leave
    else if isStrayInTable name then b.done
    else b.inTable token
  | _ => b.inTable token

/-- A row of a table. -/
def inRow (b : Builder) (token : Token) : Turn :=
  let inside := ["tr", "template", "html"]
  let leave : Turn :=
    if b.inScope Open.isTableBoundary ["tr"] then (b.closeUntil inside).close.retry .inSection
    else b.done
  match token with
  | .start t =>
    if Groups.cells.contains t.name then
      { (b.closeUntil inside).enter t with mode := .inCell }.markFormats.done
    else if ["caption", "col", "colgroup", "tbody", "tfoot", "thead", "tr"].contains t.name then
      leave
    else b.inTable token
  | .finish name =>
    if name == "tr" then
      (if b.inScope Open.isTableBoundary ["tr"] then
        { (b.closeUntil inside).close with mode := .inSection }
      else b).done
    else if name == "table" then leave
    else if Groups.sections.contains name then
      if b.inScope Open.isTableBoundary [name] then leave else b.done
    else if isStrayInTable name then b.done
    else b.inTable token
  | _ => b.inTable token

/-- The builder with the cell closed that is open. -/
def closeCell (b : Builder) : Builder :=
  ((b.closeImplied Groups.implied "").closeThrough Groups.cells).clearFormats

/-- A cell of a table. -/
def inCell (b : Builder) (token : Token) : Turn :=
  match token with
  | .start t =>
    if endsCaption t.name then
      if b.inScope Open.isTableBoundary Groups.cells then b.closeCell.retry .inRow else b.done
    else b.inBody token
  | .finish name =>
    if Groups.cells.contains name then
      (if b.inScope Open.isTableBoundary [name] then
        { (b.closeElement name).clearFormats with mode := .inRow }
      else b).done
    else if Groups.tableFrame.contains name then
      if b.inScope Open.isTableBoundary [name] then b.closeCell.retry .inRow else b.done
    else if isStrayInTable name then b.done
    else b.inBody token
  | _ => b.inBody token

/-- The builder with a group of choices closed. -/
def closeGroup (b : Builder) : Builder :=
  let b := match b.stack with
    | o :: p :: r =>
      if o.isNamed "option" && p.isNamed "optgroup" then { b with stack := p :: r } else b
    | _ => b
  b.closeIf ["optgroup"]

/-- A list to choose from. -/
def inSelect (b : Builder) (token : Token) : Turn :=
  let leave : Builder :=
    if b.inScope Open.isSelectBoundary ["select"] then (b.closeThrough ["select"]).resetMode else b
  match token with
  | .text s => (b.addText s).done
  | .comment s => (b.addComment s).done
  | .start t =>
    match t.name with
    | "html" => (b.mergeIntoHtml t).done
    | "option" => ((b.closeIf ["option"]).enter t).done
    | "optgroup" => (((b.closeIf ["option"]).closeIf ["optgroup"]).enter t).done
    | "hr" => (((b.closeIf ["option"]).closeIf ["optgroup"]).addEmpty t).done
    | "select" => leave.done
    | "input" | "keygen" | "textarea" =>
      if b.inScope Open.isSelectBoundary ["select"] then ⟨leave, true⟩ else b.done
    | "script" | "template" => (b.addHeadOnly t).done
    | _ => b.done
  | .finish name =>
    match name with
    | "optgroup" => b.closeGroup.done
    | "option" => (b.closeIf ["option"]).done
    | "select" => leave.done
    | "template" => b.closeTemplate.done
    | _ => b.done
  | .stop => b.inBody token
  | _ => b.done

/-- Names of parts of a table that a list to choose from ends at. -/
def endsSelect (name : String) : Bool :=
  name == "caption" || Groups.tableFrame.contains name || Groups.cells.contains name

/-- A list to choose from, in a table. -/
def inSelectInTable (b : Builder) (token : Token) : Turn :=
  let leave : Turn := ⟨(b.closeThrough ["select"]).resetMode, true⟩
  match token with
  | .start t => if endsSelect t.name then leave else b.inSelect token
  | .finish name =>
    if endsSelect name then
      if b.inScope Open.isTableBoundary [name] then leave else b.done
    else b.inSelect token
  | _ => b.inSelect token

/-- The builder with another mode for the innermost template. -/
def retryTemplate (b : Builder) (mode : Mode) : Turn :=
  { b with templates := mode :: b.templates.tail }.retry mode

/-- A template. Its first element tells what it is a template of. -/
def inTemplate (b : Builder) (token : Token) : Turn :=
  match token with
  | .text _ | .comment _ => b.inBody token
  | .start t =>
    if Groups.headOnly.contains t.name then (b.addHeadOnly t).done
    else if ["caption", "colgroup", "tbody", "tfoot", "thead"].contains t.name then
      b.retryTemplate .inTable
    else if t.name == "col" then b.retryTemplate .inColumns
    else if t.name == "tr" then b.retryTemplate .inSection
    else if Groups.cells.contains t.name then b.retryTemplate .inRow
    else b.retryTemplate .inBody
  | .finish name => if name == "template" then b.closeTemplate.done else b.done
  | .stop => b.stopInTemplate
  | _ => b.done

end Metasearch.Html.Builder
