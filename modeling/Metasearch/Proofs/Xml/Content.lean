import Metasearch.Xml.Event

/-!
# The tree of a document

Events are balanced when every element that starts ends, and within the one in which it started.
A walk through a tree from front to back meets such events.

## Main definitions

* `Event.after`: the elements that are open after an event.
* `Content`: a tree of elements and texts; `Content.events`: the walk through it.
* `Content.elements`: the elements of a tree, at any depth, in the order in which they start.

## Main results

* `Content.after_events`: the walk through a tree is balanced.
* `Content.events_infix_of_mem`: the events of an element stand together.
-/

namespace Metasearch.Xml

variable {opened final : List (List Char)}

/-- The elements that are open after an event, the innermost first. An element ends only when it is
the innermost. -/
def Event.after (opened : List (List Char)) : Event → Option (List (List Char))
  | .start t => some (t.name :: opened)
  | .finish name =>
    match opened with
    | innermost :: outer => if name = innermost then some outer else none
    | [] => none
  | _ => some opened

theorem Event.after_finish_eq_some_iff {name : List Char} :
    Event.after opened (.finish name) = some final ↔ opened = name :: final := by
  cases opened with
  | nil => simp [Event.after]
  | cons innermost outer =>
    rw [Event.after, Option.ite_none_right_eq_some, Option.some.injEq, List.cons.injEq,
      eq_comm (a := name)]

/-- What stands within an element, or in a document: elements and texts. -/
inductive Content where
  /-- Nothing. -/
  | nil
  /-- An element, what stands within it, and what follows. -/
  | element (tag : Tag) (inside rest : Content)
  /-- An element that ends where it starts, and what follows. -/
  | single (tag : Tag) (rest : Content)
  /-- Text with entities, and what follows. -/
  | text (raw : List Char) (rest : Content)
  /-- Text as it is, and what follows. -/
  | verbatim (raw : List Char) (rest : Content)

/-- An element that does not end where it starts. -/
structure Element where
  /-- How it starts. -/
  tag : Tag
  /-- What stands within it. -/
  inside : Content

namespace Content

/-- The walk through a tree. -/
def events : Content → List Event
  | nil => []
  | element tag inside rest =>
    .start tag :: (inside.events ++ .finish tag.name :: rest.events)
  | single tag rest => .single tag :: rest.events
  | text raw rest => .text raw :: rest.events
  | verbatim raw rest => .verbatim raw :: rest.events

/-- The elements of a tree, at any depth, in the order in which they start. -/
def elements : Content → List Element
  | nil => []
  | element tag inside rest => ⟨tag, inside⟩ :: (inside.elements ++ rest.elements)
  | single _ rest | text _ rest | verbatim _ rest => rest.elements

/-- The first tag of a tree. -/
def root? : Content → Option Tag
  | nil => none
  | element tag _ _ | single tag _ => some tag
  | text _ rest | verbatim _ rest => rest.root?

/-- **The walk through a tree is balanced.** -/
theorem after_events (c : Content) (opened : List (List Char)) :
    c.events.foldlM Event.after opened = some opened := by
  induction c generalizing opened with
  | nil => rfl
  | element tag inside rest ihInside ihRest =>
    rw [events, List.foldlM_cons, Event.after, Option.bind_eq_bind, Option.bind_some,
      List.foldlM_append, ihInside, Option.bind_eq_bind, Option.bind_some, List.foldlM_cons,
      Event.after_finish_eq_some_iff.mpr rfl, Option.bind_eq_bind, Option.bind_some, ihRest]
  | single tag rest ih => exact ih opened
  | text raw rest ih => exact ih opened
  | verbatim raw rest ih => exact ih opened

end Content

/-- A tree that is the element alone. -/
def Element.alone (e : Element) : Content :=
  .element e.tag e.inside .nil

/-- **The walk through an element is one stretch of the walk through the tree.** -/
theorem Content.events_infix_of_mem {c : Content} {e : Element} (h : e ∈ c.elements) :
    e.alone.events <:+: c.events := by
  induction c with
  | nil => exact absurd h List.not_mem_nil
  | element tag inside rest ihInside ihRest =>
    rcases List.mem_cons.mp h with rfl | h
    · exact ⟨[], rest.events, by simp [Element.alone, events]⟩
    · have hparts : (element tag inside rest).events =
          [.start tag] ++ inside.events ++ (.finish tag.name :: rest.events) := by
        simp [events]
      rw [hparts]
      rcases List.mem_append.mp h with h | h
      · exact (ihInside h).trans (List.infix_append _ _ _)
      · exact ((ihRest h).trans (List.suffix_cons _ _).isInfix).trans
          (List.suffix_append _ _).isInfix
  | single tag rest ih => exact (ih h).trans (List.suffix_cons _ _).isInfix
  | text raw rest ih => exact (ih h).trans (List.suffix_cons _ _).isInfix
  | verbatim raw rest ih => exact (ih h).trans (List.suffix_cons _ _).isInfix

end Metasearch.Xml
