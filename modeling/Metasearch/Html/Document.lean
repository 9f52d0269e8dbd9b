/-!
# Documents

A document is a list of nodes in the order in which they were made. A node knows its parent and its
children by their numbers, so that moving a part of the tree changes no number. A node without a
parent is in the list but not in the tree.

## Main definitions

* `Name`, `Attribute`, `Content`, `Node`, `Document`.
* `Document.create`, `Document.insert`, `Document.write`, `Document.detach`,
  `Document.moveChildren`: how trees grow.
* `Document.elements`, `Document.descendants`, `Document.textOf`: what is in them.
-/

namespace Metasearch.Html

/-- A set of element names with meanings of their own. -/
inductive Vocabulary where
  /-- Text documents. -/
  | html
  /-- Drawings. -/
  | svg
  /-- Formulas. -/
  | mathml
deriving DecidableEq, Repr

/-- What an element is called. -/
structure Name where
  /-- The vocabulary that the name is from. -/
  vocabulary : Vocabulary
  /-- The name itself. -/
  text : String
deriving DecidableEq, Repr

/-- An attribute of an element. -/
structure Attribute where
  /-- The name, without a prefix that stands for a vocabulary. -/
  name : String
  /-- The value. -/
  value : String
  /-- Whether the name is from a vocabulary for attributes, as that of `xlink:href` is. -/
  qualified : Bool
deriving DecidableEq, Repr

/-- What a node is. -/
inductive Content where
  /-- The top of the tree. -/
  | document
  /-- An element. -/
  | element (name : Name) (attributes : List Attribute)
  /-- Text. -/
  | text (characters : List Char)
  /-- A comment. -/
  | comment (characters : List Char)
  /-- What a template holds. -/
  | fragment
deriving DecidableEq, Repr

/-- The number of a node. -/
abbrev NodeId : Type := Nat

/-- A node in its place. -/
structure Node where
  /-- What the node is. -/
  content : Content
  /-- What it is in, if it is in the tree. -/
  parent : Option NodeId
  /-- What is in it, in order. -/
  children : List NodeId
deriving DecidableEq, Repr

/-- Nodes in the order in which they were made. -/
structure Document where
  /-- The nodes. -/
  nodes : Array Node
deriving DecidableEq, Repr

/-- A place for a node in a tree. -/
inductive Place where
  /-- After all that is in a node. -/
  | lastIn (parent : NodeId)
  /-- Before a node that has a parent. -/
  | before (sibling : NodeId)
deriving DecidableEq, Repr

namespace Document

/-- The number of the top of the tree. -/
def root : NodeId := 0

/-- A document with only its top. -/
def empty : Document := ⟨#[⟨.document, none, []⟩]⟩

/-! ### One node -/

/-- What a node is. -/
def content? (d : Document) (n : NodeId) : Option Content := d.nodes[n]?.map Node.content

/-- What a node is in. -/
def parent? (d : Document) (n : NodeId) : Option NodeId := d.nodes[n]?.bind Node.parent

/-- What is in a node. -/
def children (d : Document) (n : NodeId) : List NodeId :=
  match d.nodes[n]? with
  | some x => x.children
  | none => []

/-- The name of an element. -/
def name? (d : Document) (n : NodeId) : Option Name :=
  match d.content? n with
  | some (.element name _) => some name
  | _ => none

/-- The attributes of an element. -/
def attributes (d : Document) (n : NodeId) : List Attribute :=
  match d.content? n with
  | some (.element _ attributes) => attributes
  | _ => []

/-- Holds of elements. -/
def isElement (d : Document) (n : NodeId) : Bool := (d.name? n).isSome

/-- Holds of text. -/
def isText (d : Document) (n : NodeId) : Bool :=
  match d.content? n with
  | some (.text _) => true
  | _ => false

/-- The value of an unqualified attribute. -/
def attribute? (d : Document) (n : NodeId) (name : String) : Option String :=
  ((d.attributes n).find? fun a => !a.qualified && a.name == name).map Attribute.value

/-! ### Growing -/

/-- The document with one node changed. -/
def update (d : Document) (n : NodeId) (change : Node → Node) : Document :=
  ⟨d.nodes.modify n change⟩

/-- The document with one more node, which is not in the tree, and its number. -/
def create (d : Document) (content : Content) : Document × NodeId :=
  (⟨d.nodes.push ⟨content, none, []⟩⟩, d.nodes.size)

/-- The document with a node taken out of the tree. -/
def detach (d : Document) (n : NodeId) : Document :=
  match d.parent? n with
  | none => d
  | some p =>
    (d.update p fun x => { x with children := x.children.erase n }).update n fun x =>
      { x with parent := none }

/-- A list with an element put before another one. -/
def putBefore (mark n : NodeId) : List NodeId → List NodeId
  | [] => []
  | m :: r => if m = mark then n :: m :: r else m :: putBefore mark n r

/-- The document with a node taken to a place. -/
def insert (d : Document) (place : Place) (n : NodeId) : Document :=
  let d := d.detach n
  match place with
  | .lastIn p =>
    (d.update p fun x => { x with children := x.children ++ [n] }).update n fun x =>
      { x with parent := some p }
  | .before sibling =>
    match d.parent? sibling with
    | none => d
    | some p =>
      (d.update p fun x => { x with children := putBefore sibling n x.children }).update n
        fun x => { x with parent := some p }

/-- What stands just before a place. -/
def nodeBefore? (d : Document) : Place → Option NodeId
  | .lastIn p => (d.children p).getLast?
  | .before sibling =>
    match d.parent? sibling with
    | none => none
    | some p => ((d.children p).takeWhile (· != sibling)).getLast?

/-- The document with text written at a place. Text that stands just before goes on. -/
def write (d : Document) (place : Place) (s : List Char) : Document :=
  match d.nodeBefore? place with
  | some n =>
    match d.content? n with
    | some (.text t) => d.update n fun x => { x with content := .text (t ++ s) }
    | _ =>
      let (d, m) := d.create (.text s)
      d.insert place m
  | none =>
    let (d, m) := d.create (.text s)
    d.insert place m

/-- The document with all that is in one node taken to the end of another one. -/
def moveChildren (d : Document) (source target : NodeId) : Document :=
  (d.children source).foldl (fun d n => d.insert (.lastIn target) n) d

/-- The document with those attributes added to an element that it does not have. -/
def addAttributes (d : Document) (n : NodeId) (more : List Attribute) : Document :=
  d.update n fun x =>
    match x.content with
    | .element name attributes =>
      let missing := more.filter fun a => !attributes.any fun b => b.name == a.name
      { x with content := .element name (attributes ++ missing) }
    | _ => x

/-! ### Looking around -/

/-- What is in a node, at any depth up to a bound, in the order of the text. -/
def descendantsWithin (d : Document) : Nat → NodeId → List NodeId
  | 0, _ => []
  | depth + 1, n => (d.children n).flatMap fun c => c :: d.descendantsWithin depth c

/-- All that is in a node, at any depth, in the order of the text. No branch is longer than the
list of nodes. -/
def descendants (d : Document) (n : NodeId) : List NodeId := d.descendantsWithin d.nodes.size n

/-- The elements of the tree in the order in which they were made. -/
def elements (d : Document) : List NodeId :=
  (List.range d.nodes.size).filter fun n => d.isElement n && (d.parent? n).isSome

/-- All text in a node, in one piece. -/
def textOf (d : Document) (n : NodeId) : List Char :=
  (d.descendants n).flatMap fun m =>
    match d.content? m with
    | some (.text s) => s
    | _ => []

/-- The element that an element is directly in. -/
def parentElement? (d : Document) (n : NodeId) : Option NodeId := (d.parent? n).filter d.isElement

/-- The elements that an element is in up to a number, the nearest first. -/
def ancestorsWithin (d : Document) : Nat → NodeId → List NodeId
  | 0, _ => []
  | depth + 1, n =>
    match d.parentElement? n with
    | some p => p :: d.ancestorsWithin depth p
    | none => []

/-- All elements that an element is in, the nearest first. -/
def ancestors (d : Document) (n : NodeId) : List NodeId := d.ancestorsWithin d.nodes.size n

/-- What is beside a node and itself, in order. -/
def siblings (d : Document) (n : NodeId) : List NodeId :=
  match d.parent? n with
  | some p => d.children p
  | none => []

/-- The elements beside an element that come before it, the nearest first. -/
def elementsBefore (d : Document) (n : NodeId) : List NodeId :=
  (((d.siblings n).takeWhile (· != n)).filter d.isElement).reverse

/-- The elements beside an element that come after it, the nearest first. -/
def elementsAfter (d : Document) (n : NodeId) : List NodeId :=
  ((d.siblings n).dropWhile (· != n)).tail.filter d.isElement

/-- The elements that are directly in a node. -/
def childElements (d : Document) (n : NodeId) : List NodeId := (d.children n).filter d.isElement

/-- The elements in a node down to a depth that are reached through elements only. -/
def innerElementsWithin (d : Document) : Nat → NodeId → List NodeId
  | 0, _ => []
  | depth + 1, n => (d.childElements n).flatMap fun c => c :: d.innerElementsWithin depth c

/-- All elements in a node that are reached through elements only: not those in a template. -/
def innerElements (d : Document) (n : NodeId) : List NodeId :=
  d.innerElementsWithin d.nodes.size n

/-- Holds of the outermost element. -/
def isOutermost (d : Document) (n : NodeId) : Bool := d.parent? n == some root

end Document
end Metasearch.Html
