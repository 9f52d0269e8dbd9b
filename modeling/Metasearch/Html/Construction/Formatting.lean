import Metasearch.Html.Construction.Builder

/-!
# The looks of text

An element that only changes how text looks may end in the midst of another element. What follows
then looks as if it had ended at the right place: the element is split, and its parts are made
alike.

## Main definitions

* `Builder.restoreFormats`: the elements for looks are opened again.
* `Builder.addFormat`: a new element for looks.
* `Builder.closeOther`: what an end tag does that has no rule of its own.
* `Builder.closeFormat`: what the end tag of an element for looks does.
-/

namespace Metasearch.Html.Builder

/-- Holds of entries at which opening again can stop. -/
def isSettled (b : Builder) : Format → Bool
  | .marker => true
  | .element n _ => b.stack.any fun o => o.id == n

/-- The builder with the elements of some entries opened again, the first entry first. -/
def reopen (b : Builder) : List Format → Builder
  | [] => b
  | .marker :: r => reopen b r
  | .element _ t :: r =>
    let (b, o) := b.add ⟨.html, t.name⟩ t.attributes
    reopen { b with stack := o :: b.stack, formats := .element o.id t :: b.formats } r

/-- The builder with all elements for looks opened again that were closed with what they were in. -/
def restoreFormats (b : Builder) : Builder :=
  let missing := b.formats.takeWhile fun f => !b.isSettled f
  { b with formats := b.formats.drop missing.length }.reopen missing.reverse

/-- The entries since the last marker, the last one first. -/
def recentFormats (b : Builder) : List Format := b.formats.takeWhile Format.isElement

/-- The builder without the entry for an element. -/
def dropFormat (b : Builder) (n : NodeId) : Builder :=
  { b with formats := b.formats.filter fun f => !f.isFor n }

/-- The elements of the entries since the last marker with a tag alike to one, the last one
first. -/
def alikeFormats (b : Builder) (t : Tag) : List NodeId :=
  b.recentFormats.filterMap fun f =>
    match f with
    | .marker => none
    | .element n u => if t.alike u then some n else none

/-- The builder with a new element for looks. Of more than three alike the first is forgotten. -/
def addFormat (b : Builder) (t : Tag) : Builder :=
  let same := b.alikeFormats t
  let b := match same.getLast? with
    | some n => if 3 ≤ same.length then b.dropFormat n else b
    | none => b
  let (b, o) := b.add ⟨.html, t.name⟩ t.attributes
  { b with stack := o :: b.stack, formats := .element o.id t :: b.formats }

/-- What is left of the open elements after the end tag of a name that has no rule of its own. -/
def stackAfterEnd (name : String) : List Open → Option (List Open)
  | [] => none
  | o :: r =>
    if o.isNamed name then some r
    else if o.isOneOf Groups.special then none
    else stackAfterEnd name r

/-- The builder after the end tag of a name that has no rule of its own. -/
def closeOther (b : Builder) (name : String) : Builder :=
  match stackAfterEnd name b.stack with
  | some stack => { b with stack }
  | none => b

/-- The last entry since the last marker whose tag has a name. -/
def lastFormat? (b : Builder) (name : String) : Option (NodeId × Tag) :=
  b.recentFormats.findSome? fun f =>
    match f with
    | .marker => none
    | .element n t => if t.name == name then some (n, t) else none

/-- Where the entry for the last part of a split element goes. -/
inductive Bookmark where
  /-- In the place of the element's own entry. -/
  | replacing
  /-- After the entry of another element. -/
  | after (n : NodeId)

/-- The state of splitting an element. -/
structure Split where
  /-- The builder. -/
  builder : Builder
  /-- The open elements between the block and the split element that stay, the outermost first. -/
  kept : List Open
  /-- The node that is moved next. -/
  last : NodeId
  /-- Where the entry for the last part goes. -/
  bookmark : Bookmark
  /-- How many elements have been met. -/
  met : Nat

/-- The state after one more of the open elements between the block and the split element. -/
def Split.next (block : NodeId) (s : Split) (o : Open) : Split :=
  let s := { s with met := s.met + 1 }
  if 3 < s.met then { s with builder := s.builder.dropFormat o.id }
  else
    match s.builder.formats.find? (Format.isFor o.id) with
    | some (.element _ t) =>
      let (b, new) := s.builder.create ⟨.html, t.name⟩ t.attributes
      let formats := b.formats.map fun f => if f.isFor o.id then .element new.id t else f
      let document := b.document.insert (.lastIn new.id) s.last
      { s with
        builder := { b with formats, document }
        kept := new :: s.kept
        last := new.id
        bookmark := if s.last = block then .after new.id else s.bookmark }
    | _ => s

/-- The entries with one put in at a bookmark and that of the split element taken out. -/
def placeFormat (split : NodeId) (new : Format) (bookmark : Bookmark) (formats : List Format) :
    List Format :=
  match bookmark with
  | .replacing => formats.map fun f => if f.isFor split then new else f
  | .after n =>
    (formats.flatMap fun f => if f.isFor n then [new, f] else [f]).filter fun f => !f.isFor split

/-- The builder after one round of splitting, and whether another one follows. -/
def splitOnce (b : Builder) (name : String) : Builder × Bool :=
  match b.lastFormat? name with
  | none => (b.closeOther name, false)
  | some (n, t) =>
    let inner := b.stack.takeWhile fun o => o.id != n
    match b.stack.drop inner.length with
    | [] => (b.dropFormat n, false)
    | _ :: outer =>
      if !findsBefore Open.isBoundary (fun o => o.id == n) b.stack then (b, false)
      else
        let between := (inner.reverse.takeWhile fun o => !o.isOneOf Groups.special).reverse
        match (inner.take (inner.length - between.length)).getLast?, outer with
        | some block, ancestor :: _ =>
          let inside := inner.take (inner.length - between.length - 1)
          let s := between.foldl (Split.next block.id) ⟨b, [], block.id, .replacing, 0⟩
          let b := s.builder
          let document := b.document.detach s.last
          let b := { b with document := document.insert (b.placeIn ancestor) s.last }
          let (b, new) := b.create ⟨.html, t.name⟩ t.attributes
          let document := b.document.moveChildren block.id new.id
          let b := { b with
            document := document.insert (.lastIn block.id) new.id
            formats := placeFormat n (.element new.id t) s.bookmark b.formats
            stack := inside ++ new :: block :: (s.kept.reverse ++ outer) }
          (b, true)
        | _, _ => ({ b with stack := outer }.dropFormat n, false)

/-- The builder after at most so many rounds of splitting. -/
def splitRounds (name : String) : Nat → Builder → Builder
  | 0, b => b
  | rounds + 1, b =>
    match b.splitOnce name with
    | (b, true) => splitRounds name rounds b
    | (b, false) => b

/-- The builder after the end tag of an element for looks. -/
def closeFormat (b : Builder) (name : String) : Builder :=
  match b.stack with
  | o :: r =>
    if o.isNamed name && !b.formats.any (Format.isFor o.id) then { b with stack := r }
    else splitRounds name 8 b
  | [] => b

/-- The builder with a link closed that is open, for a link may not stand in another one. -/
def closeLink (b : Builder) : Builder :=
  match b.lastFormat? "a" with
  | some (n, _) => ((b.closeFormat "a").dropFormat n).forget n
  | none => b

end Metasearch.Html.Builder
