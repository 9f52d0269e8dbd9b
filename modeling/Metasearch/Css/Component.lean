import Metasearch.Css.Token

/-!
# Brackets

Tokens are grouped by their brackets. What is left open at the end is closed there; a closing
bracket that closes nothing is a piece of its own.

## Main definitions

* `Component`: a token, or what stands in brackets.
* `components`: tokens grouped by their brackets.
-/

namespace Metasearch.Css

/-- A token, or what stands in brackets. -/
inductive Component where
  /-- A token that is no bracket, or one that closes nothing. -/
  | token (t : Token)
  /-- What stands in the brackets after a name. -/
  | function (name : List Char) (arguments : List Component)
  /-- What stands in brackets. -/
  | block (bracket : Bracket) (items : List Component)
deriving Repr

/-- Brackets that are open, with what has been read in them, backwards. -/
structure Frame where
  /-- The name before the bracket. -/
  function : Option (List Char)
  /-- The kind of the bracket. -/
  bracket : Bracket
  /-- What has been read in it, the last one first. -/
  items : List Component

/-- What the brackets hold once they are closed. -/
def Frame.closed (f : Frame) : Component :=
  match f.function with
  | some name => .function name f.items.reverse
  | none => .block f.bracket f.items.reverse

/-- Open brackets, the innermost first, and what stands outside of all, backwards. -/
structure Grouping where
  /-- The brackets. -/
  frames : List Frame
  /-- What stands outside, the last one first. -/
  items : List Component

namespace Grouping

/-- The grouping with one more component. -/
def add (g : Grouping) (c : Component) : Grouping :=
  match g.frames with
  | f :: r => ⟨{ f with items := c :: f.items } :: r, g.items⟩
  | [] => ⟨[], c :: g.items⟩

/-- The grouping with one more token. -/
def next (g : Grouping) (t : Token) : Grouping :=
  match t with
  | .function name => ⟨⟨some name, .round, []⟩ :: g.frames, g.items⟩
  | .opening b => ⟨⟨none, b, []⟩ :: g.frames, g.items⟩
  | .closing b =>
    match g.frames with
    | f :: r => if f.bracket = b then Grouping.add ⟨r, g.items⟩ f.closed else g.add (.token t)
    | [] => g.add (.token t)
  | t => g.add (.token t)

/-- All components, with open brackets closed. -/
def all (g : Grouping) : List Component := go g.frames g.items
where
  /-- Closes the brackets, the innermost first. -/
  go : List Frame → List Component → List Component
    | [], items => items.reverse
    | [f], items => (f.closed :: items).reverse
    | f :: outer :: r, items => go ({ outer with items := f.closed :: outer.items } :: r) items
  termination_by frames => frames.length

end Grouping

/-- Tokens grouped by their brackets. -/
def components (tokens : List Token) : List Component :=
  (tokens.foldl Grouping.next ⟨[], []⟩).all

/-- Components cut at the commas between them. -/
def splitCommas : List Component → List (List Component)
  | [] => [[]]
  | .token .comma :: r => [] :: splitCommas r
  | c :: r =>
    match splitCommas r with
    | part :: rest => (c :: part) :: rest
    | [] => [[c]]

mutual
/-- Holds if nothing in a component is bad. -/
def Component.isSound : Component → Bool
  | .token .bad | .token (.closing _) => false
  | .token _ => true
  | .function _ arguments => allSound arguments
  | .block _ items => allSound items
/-- Holds if nothing in some components is bad. -/
def allSound : List Component → Bool
  | [] => true
  | c :: r => c.isSound && allSound r
end

end Metasearch.Css
