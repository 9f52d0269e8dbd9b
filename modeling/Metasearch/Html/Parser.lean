import Metasearch.Html.Construction.Table
import Metasearch.Html.Lexer

/-!
# Reading documents

Every text is a document. Its tokens are read one after the other, for how the next one is read
depends on the elements that are open, and each adds to the tree.

## Main definitions

* `Builder.take`: what one token does.
* `Document.ofText`: the document that a text is.
-/

namespace Metasearch.Html

namespace Builder

/-- What a token does in a mode. -/
def turnIn (b : Builder) (mode : Mode) (token : Token) : Turn :=
  match mode with
  | .initial => b.initial token
  | .beforeHtml => b.beforeHtml token
  | .beforeHead => b.beforeHead token
  | .inHead => b.inHead token
  | .afterHead => b.afterHead token
  | .inBody => b.inBody token
  | .inText => b.inText token
  | .inTable => b.inTable token
  | .inTableText => b.inTableText token
  | .inCaption => b.inCaption token
  | .inColumns => b.inColumns token
  | .inSection => b.inSection token
  | .inRow => b.inRow token
  | .inCell => b.inCell token
  | .inSelect => b.inSelect token
  | .inSelectInTable => b.inSelectInTable token
  | .inTemplate => b.inTemplate token
  | .afterBody => b.afterBody token
  | .inFrameset => b.inFrameset token
  | .afterFrameset => b.afterFrameset token
  | .afterHtml => b.afterHtml token
  | .afterFrames => b.afterFrames token

/-- What a token does in a drawing or formula. -/
def turnInForeign (b : Builder) (token : Token) : Turn :=
  let vocabulary := (b.stack.head?.map fun o => o.name.vocabulary).getD .html
  match token with
  | .null => (b.addText [Reference.replacement]).done
  | .text s => ((if isBlankText s then b else b.noFrames).addText s).done
  | .comment s => (b.addComment s).done
  | .start t =>
    if breaksOut t then
      let b := b.leaveForeign
      b.turnIn b.mode token
    else (b.addWithin vocabulary t).done
  | .finish name =>
    if name == "br" || name == "p" then
      let b := b.leaveForeign
      b.turnIn b.mode token
    else
      match foreignEnd name true b.stack with
      | .nothing => b.done
      | .leaves stack => { b with stack }.done
      | .ordinary => b.turnIn b.mode token
  | _ => b.done

/-- What a token does. -/
def turn (b : Builder) (token : Token) : Turn :=
  if b.isForeign token then b.turnInForeign token else b.turnIn b.mode token

/-- The builder after at most so many looks at a token. -/
def lookAt (token : Token) : Nat → Builder → Builder
  | 0, b => b
  | looks + 1, b =>
    let turn := b.turn token
    if turn.again then lookAt token looks turn.builder else turn.builder

/-- More looks than any token needs: each but a few closes an element. -/
def looks (b : Builder) : Nat := 20 + 4 * b.stack.length

/-- The builder after a token that has been looked at as often as it needs. -/
def settle (b : Builder) (token : Token) : Builder := lookAt token b.looks b

/-- Holds of the types of early documents. -/
def isEarly (d : Doctype) : Bool :=
  let publicId := d.publicId.map fun s => Text.lower s
  let begins (s : String) : Bool := publicId.any fun id => s.toList.isPrefixOf id
  d.broken || d.name != some "html".toList || publicId == some "html".toList ||
    begins "-//w3c//dtd html 3.2" || begins "-//w3c//dtd html 4.0 frameset//" ||
    begins "-//w3c//dtd html 4.0 transitional//" ||
    (d.systemId.isNone && (begins "-//w3c//dtd html 4.01 frameset//" ||
      begins "-//w3c//dtd html 4.01 transitional//"))

/-- A text cut where white space begins or ends. -/
def runs : List Char → List (List Char)
  | [] => []
  | c :: r =>
    match runs r with
    | [] => [[c]]
    | [] :: rest => [c] :: rest
    | (d :: run) :: rest =>
      if isBlankText [c] = isBlankText [d] then (c :: d :: run) :: rest
      else [c] :: (d :: run) :: rest

/-- The text without the line feed that it begins with. -/
def skipLine (s : List Char) : List Char :=
  match s with
  | '\n' :: r => r
  | s => s

/-- The builder after a token. -/
def take (b : Builder) (token : Token) : Builder :=
  let skips := b.skipsLine
  let b := { b with skipsLine := false }
  match token with
  | .doctype d =>
    if b.mode = .initial then { b with mode := .beforeHtml, lenient := isEarly d } else b
  | .text s => (runs (if skips then skipLine s else s)).foldl (fun b run => b.settle (.text run)) b
  | token => b.settle token

/-- The builder after the first tokens of a text, and its end. -/
def readAll : Nat → Builder → List Char → Builder
  | 0, b, _ => b.settle .stop
  | tokens + 1, b, s =>
    match nextToken? b.kind b.isInForeign s with
    | some (token, rest) => readAll tokens (b.take token) rest
    | none => b.settle .stop

end Builder

/-- The document that a text is. No text has more tokens than characters. -/
def Document.ofText (s : List Char) : Document :=
  let s := normalized s
  (Builder.readAll s.length Builder.start s).document

end Metasearch.Html
