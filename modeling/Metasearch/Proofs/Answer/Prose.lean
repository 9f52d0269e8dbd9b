import Metasearch.Proofs.Answer.Entries

/-!
# Running text of an entry

Title, summary, full text and authors of an entry are put together from the texts that are met in
its elements. Several elements may be for one field: a title and one with a namespace, say, or two
authors. Then the field has the texts of all of them, one right after the other, and it is the text
of a single element just when no second one says anything.

## Main definitions

* `Prose`: the fields that text is added to.
* `Content.ownText`: the text that stands directly in an element.
* `Prose.textIn`: the text that an element of an entry gives to a field.

## Main results

* `Prose.of_ofElement`: a field is the texts of the elements one after the other.
* `entriesOf_prose`: when a field is the text of one element.
-/

namespace Metasearch

/-- The text that stands directly in a tree, and in no element of it. -/
def Xml.Content.ownText : Xml.Content → List Char
  | .nil => []
  | .element _ _ rest | .single _ rest => rest.ownText
  | .text raw rest => (Xml.unescape? raw).getD raw ++ rest.ownText
  | .verbatim raw rest => raw ++ rest.ownText

namespace Answer

open Metasearch.Text Metasearch.Xml

variable {c : Content} {x : Entry} {e y : Element} {s field parent : List Char}
  {outer path : List (List Char)} {entries : List Entry}

/-- The fields of an entry that text is added to. -/
inductive Prose where
  /-- The title. -/
  | title
  /-- The summary. -/
  | summary
  /-- The full text. -/
  | content
  /-- The authors. -/
  | author
deriving DecidableEq

namespace Prose

variable {p : Prose}

/-- What an entry says in a field. -/
def of (p : Prose) (x : Entry) : List Char :=
  match p with
  | title => x.title
  | summary => x.summary
  | content => x.content
  | author => x.author

/-- The names of the elements that a field is for. -/
def names : Prose → List String
  | title => ["title"]
  | summary => ["description", "summary"]
  | content => ["encoded", "content"]
  | author => ["author", "creator"]

/-- Holds of two elements, one directly within the other, if text directly within them is added to a
field. The name of an author is, wherever it stands. -/
def takes (p : Prose) (field parent : List Char) : Bool :=
  if field == "name".toList && parent == "author".toList then p == author
  else isEntryName parent && p.names.contains (String.ofList field)

/-- The text of a tree that is added to a field, where the tree stands within two elements. -/
def textWithin (p : Prose) (field parent : List Char) : Content → List Char
  | .nil => []
  | .element tag inside rest =>
    p.textWithin tag.localName field inside ++ p.textWithin field parent rest
  | .single _ rest => p.textWithin field parent rest
  | .text raw rest =>
    (if p.takes field parent then (unescape? raw).getD raw else []) ++
      p.textWithin field parent rest
  | .verbatim raw rest =>
    (if p.takes field parent then raw else []) ++ p.textWithin field parent rest

/-- The text that an element gives to a field, where it stands directly in the element of an
entry. -/
def textIn (p : Prose) (e y : Element) : List Char :=
  p.textWithin y.tag.localName e.tag.localName y.inside

/-! ### Fields as the texts of elements -/

theorem of_withAttributes (p : Prose) (x : Entry) (t : Tag) :
    p.of (x.withAttributes t) = p.of x := by
  unfold Entry.withAttributes
  split
  · dsimp only
    split_ifs
    · cases t.attribute? "href" <;> cases p <;> rfl
    · rfl
  · cases t.attribute? "term" <;> cases p <;> rfl
  · rfl

theorem of_withTag (p : Prose) (x : Entry) (path : List (List Char)) (t : Tag) :
    p.of (x.withTag path t) = p.of x := by
  cases path with
  | nil => rfl
  | cons name path =>
    rw [Entry.withTag]
    split_ifs
    · exact of_withAttributes p x t
    · rfl

theorem of_withField (p : Prose) (x : Entry) (field : String) (s : List Char) :
    p.of (x.withField field s) = p.of x ++ if p.names.contains field then s else [] := by
  unfold Entry.withField
  split
  case h_2 => by_cases hlink : x.link.isEmpty <;> cases p <;> simp [of, names, hlink]
  case h_14 => cases p <;> simp_all [of, names]
  all_goals cases p <;> simp [of, names]

theorem of_withText (p : Prose) (x : Entry) (s : List Char) :
    p.of (x.withText (field :: parent :: outer) s) =
      p.of x ++ if p.takes field parent then s else [] := by
  rw [Entry.withText, takes]
  cases field == "name".toList && parent == "author".toList with
  | true => cases p <;> simp [of]
  | false =>
    cases isEntryName parent with
    | true => exact of_withField p x _ s
    | false => exact (List.append_nil _).symm

/-- **A tree adds its text.** -/
theorem of_withContent (p : Prose) (x : Entry) (c : Content) :
    p.of (x.withContent (field :: parent :: outer) c) = p.of x ++ p.textWithin field parent c := by
  induction c generalizing x field parent outer with
  | nil => exact (List.append_nil _).symm
  | element tag inside rest ihInside ihRest =>
    rw [Entry.withContent, ihRest, ihInside, of_withTag, textWithin, List.append_assoc]
  | single tag rest ih => rw [Entry.withContent, ih, of_withTag, textWithin]
  | text raw rest ih => rw [Entry.withContent, ih, of_withText, textWithin, List.append_assoc]
  | verbatim raw rest ih => rw [Entry.withContent, ih, of_withText, textWithin, List.append_assoc]

/-- **A field is the texts of the elements one after the other.** -/
theorem of_ofElement (p : Prose) (he : isEntry e = true) :
    p.of (Entry.ofElement e) = e.inside.children.flatMap (p.textIn e) := by
  have hfold (x : Entry) (children : List Element) :
      p.of (children.foldl (Entry.withChild e.tag.localName) x) =
        p.of x ++ children.flatMap (p.textIn e) := by
    induction children generalizing x with
    | nil => exact (List.append_nil _).symm
    | cons y rest ih =>
      rw [List.foldl_cons, ih, Entry.withChild, of_withContent, of_withTag, List.flatMap_cons,
        List.append_assoc]
      rfl
  have hempty : p.of Entry.empty = [] := by cases p <;> rfl
  rw [show e = ⟨e.tag, e.inside⟩ from rfl, Entry.ofElement_eq_foldl he, hfold, hempty]
  rfl

/-- Within an element that no other stands in, text is added to a field as a whole or not at all. -/
theorem textWithin_of_children_eq_nil (h : c.children = []) :
    p.textWithin field parent c = if p.takes field parent then c.ownText else [] := by
  induction c with
  | nil => exact (ite_self _).symm
  | element tag inside rest => cases h
  | single tag rest => cases h
  | text raw rest ih | verbatim raw rest ih =>
    rw [textWithin, ih h]
    split <;> rfl

/-- What an element of character data gives to a field depends on its name. -/
theorem textIn_of_children_eq_nil (he : isEntry e = true) (h : y.inside.children = []) :
    p.textIn e y =
      if p.names.contains (String.ofList y.tag.localName) then y.inside.ownText else [] := by
  have hentry : isEntryName e.tag.localName = true := he
  have hname : (e.tag.localName == "author".toList) = false := by
    rw [isEntryName, Bool.or_eq_true, beq_iff_eq, beq_iff_eq] at hentry
    rcases hentry with h | h <;> rw [h] <;> decide
  rw [textIn, textWithin_of_children_eq_nil h, takes, hname, Bool.and_false,
    if_neg Bool.false_ne_true, hentry, Bool.true_and]

end Prose

/-! ### Fields of one element -/

section

variable {α β : Type} {f : α → List β} {l : List α}

theorem flatMap_filter (f : α → List β) (l : List α) :
    (l.filter fun a => !(f a).isEmpty).flatMap f = l.flatMap f := by
  induction l with
  | nil => rfl
  | cons a l ih =>
    rw [List.flatMap_cons, List.filter_cons, ← ih]
    cases ha : f a with
    | nil => rfl
    | cons b r => simp [ha]

/-- Lists put one after the other are one of them just when no second one holds anything. -/
theorem flatMap_eq_iff : (l.flatMap f = [] ∨ ∃ a ∈ l, l.flatMap f = f a) ↔
    (l.filter fun a => !(f a).isEmpty).length ≤ 1 := by
  have hnone {l : List α} (h : l.flatMap f = []) : (l.filter fun a => !(f a).isEmpty) = [] := by
    rw [List.filter_eq_nil_iff]
    intro a ha
    simp [List.flatMap_eq_nil_iff.mp h a ha]
  constructor
  · rintro (h | ⟨a, ha, h⟩)
    · rw [hnone h]
      exact Nat.zero_le 1
    · -- what stands before and after the one that is the whole holds nothing
      obtain ⟨before, after, rfl⟩ := List.append_of_mem ha
      rw [List.flatMap_append, List.flatMap_cons] at h
      have hlength := congrArg List.length h
      rw [List.length_append, List.length_append] at hlength
      rw [List.filter_append, hnone (List.eq_nil_of_length_eq_zero (by omega)), List.nil_append,
        List.filter_cons, hnone (List.eq_nil_of_length_eq_zero (by omega))]
      split <;> simp
  · intro h
    rw [← flatMap_filter]
    cases hfilter : l.filter fun a => !(f a).isEmpty with
    | nil => exact Or.inl rfl
    | cons a rest =>
      rw [hfilter, List.length_cons] at h
      obtain rfl := List.eq_nil_of_length_eq_zero (by omega : rest.length = 0)
      have ha : a ∈ l := (List.mem_filter.mp (hfilter ▸ List.mem_cons_self)).1
      exact Or.inr ⟨a, ha, by simp⟩

end

/-- **What the fields of an entry say.** Every entry of a feed is told by an element of it. Title,
summary, full text and authors are each the texts of its children one right after the other; a child
of character data gives all of it, or nothing, as its name says. So a field is the text of a single
child just when no second one says anything for it. -/
theorem entriesOf_prose (h : entriesOf (Xml.read s) = .ok entries) (hx : x ∈ entries) :
    ∃ e : Element, isEntry e = true ∧ e.alone.events <:+: (Xml.read s).events ∧
      x = Entry.ofElement e ∧ ∀ p : Prose, p.of x = e.inside.children.flatMap (p.textIn e) ∧
      (∀ y ∈ e.inside.children, y.inside.children = [] → p.textIn e y =
        if p.names.contains (String.ofList y.tag.localName) then y.inside.ownText else []) ∧
      ((p.of x = [] ∨ ∃ y ∈ e.inside.children, p.of x = p.textIn e y) ↔
        (e.inside.children.filter fun y => !(p.textIn e y).isEmpty).length ≤ 1) := by
  obtain ⟨e, he, -, hevents, rfl⟩ := exists_element_of_entriesOf h hx
  refine ⟨e, he, hevents, rfl, fun p => ⟨p.of_ofElement he, fun y _ hy => ?_, ?_⟩⟩
  · exact Prose.textIn_of_children_eq_nil he hy
  · rw [p.of_ofElement he]
    exact flatMap_eq_iff

/-- A feed of an entry by two authors, who are named twice. -/
def jointText : String :=
  "<feed><entry><title>T</title><author><name>Ann</name></author><dc:creator>Bob</dc:creator>" ++
    "</entry></feed>"

/-- The authors of it are the texts of two of its elements. -/
theorem entriesOf_prose_joint : ∃ entries x, entriesOf (Xml.read jointText.toList) = .ok entries ∧
    x ∈ entries ∧ x.author = "AnnBob".toList ∧ ∃ e : Element, isEntry e = true ∧
      e.alone.events <:+: (Xml.read jointText.toList).events ∧ x = Entry.ofElement e ∧
      x.author = e.inside.children.flatMap (Prose.author.textIn e) ∧
        ((x.author = [] ∨ ∃ y ∈ e.inside.children, x.author = Prose.author.textIn e y) ↔
          (e.inside.children.filter fun y => !(Prose.author.textIn e y).isEmpty).length ≤ 1) := by
  have hauthors : (entriesOf (Xml.read jointText.toList)).toOption.map
      (fun entries => entries.map Entry.author) = some ["AnnBob".toList] := by decide +kernel
  cases h : entriesOf (Xml.read jointText.toList) with
  | error fault =>
    rw [h] at hauthors
    cases hauthors
  | ok entries =>
    rw [h] at hauthors
    obtain ⟨x, hx, hauthor⟩ := List.mem_map.mp
      (Option.some.inj hauthors ▸ List.mem_singleton_self "AnnBob".toList)
    obtain ⟨e, he, hevents, hentry, hall⟩ := entriesOf_prose h hx
    obtain ⟨hfield, -, hone⟩ := hall .author
    exact ⟨entries, x, rfl, hx, hauthor, e, he, hevents, hentry, hfield, hone⟩

/-- An episode of a podcast, which has its title twice. -/
def podcastText : String :=
  "<rss><item><title>Pilot</title><itunes:title>Pilot</itunes:title></item></rss>"

/-- The elements of it. -/
def podcastTree : Content :=
  .element ⟨"rss".toList, []⟩ (.element ⟨"item".toList, []⟩
    (.element ⟨"title".toList, []⟩ (.text "Pilot".toList .nil)
      (.element ⟨"itunes:title".toList, []⟩ (.text "Pilot".toList .nil) .nil)) .nil) .nil

/-- Its title is the text of no element. -/
theorem entriesOf_podcast :
    (Xml.read podcastText.toList).events = podcastTree.events ∧
      ((entriesOf (Xml.read podcastText.toList)).toOption.map fun entries =>
        entries.map Entry.title) = some ["PilotPilot".toList] ∧
      ∀ y ∈ podcastTree.elements, y.inside.ownText ≠ "PilotPilot".toList :=
  ⟨by decide +kernel, by decide +kernel, by decide +kernel⟩

end Answer
end Metasearch
