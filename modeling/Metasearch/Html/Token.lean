import Metasearch.Html.Document

/-!
# Tokens

Markup is a sequence of tags, comments, and text. What a tag means for the text after it is told by
the kind of text that follows: in some elements no tag is recognised but the one that ends them.

## Main definitions

* `Tag`, `Doctype`, `Token`.
* `TextKind`: how what follows is read.
-/

namespace Metasearch.Html

/-- The start of an element. -/
structure Tag where
  /-- The name in lower case. -/
  name : String
  /-- The attributes, each name once. -/
  attributes : List Attribute
  /-- Whether the tag ends with a slash. -/
  closed : Bool
deriving DecidableEq, Repr

namespace Tag

/-- A tag without attributes. -/
def bare (name : String) : Tag := ⟨name, [], false⟩

/-- The value of an attribute. -/
def attribute? (t : Tag) (name : String) : Option String :=
  (t.attributes.find? fun a => a.name == name).map Attribute.value

/-- Holds of tags that differ at most in the order of their attributes. -/
def alike (t u : Tag) : Bool :=
  t.name == u.name && t.attributes.length == u.attributes.length &&
    t.attributes.all u.attributes.contains

end Tag

/-- A declaration of the document's type. -/
structure Doctype where
  /-- The name of the type. -/
  name : Option (List Char)
  /-- The public identifier. -/
  publicId : Option (List Char)
  /-- The system identifier. -/
  systemId : Option (List Char)
  /-- Whether the declaration is not well formed. -/
  broken : Bool
deriving DecidableEq, Repr

/-- A piece of markup. -/
inductive Token where
  /-- A declaration of the type. -/
  | doctype (doctype : Doctype)
  /-- The start of an element. -/
  | start (tag : Tag)
  /-- The end of an element. -/
  | finish (name : String)
  /-- A comment. -/
  | comment (characters : List Char)
  /-- Text. -/
  | text (characters : List Char)
  /-- The null character where text is expected. -/
  | null
  /-- The end of the text. -/
  | stop
deriving DecidableEq, Repr

/-- How what follows is read. -/
inductive TextKind where
  /-- Text with tags and references. -/
  | ordinary
  /-- Text with references up to the end of the element. -/
  | escapable (element : String)
  /-- Bare text up to the end of the element. -/
  | raw (element : String)
  /-- A script up to its end. -/
  | script
  /-- Bare text to the end of the document. -/
  | plain
deriving DecidableEq, Repr

end Metasearch.Html
