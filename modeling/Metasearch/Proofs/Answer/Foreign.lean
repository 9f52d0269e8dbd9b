import Metasearch.Proofs.Answer.Feed

/-!
# Elements of an entry that are no fields

An entry may hold elements that no field is for, with anything within them: the feed that it was
taken from, say, with a title and an author of its own. Text counts where it stands directly under
a field of the entry, and so nothing of such an element gets into the entry, but for one exception.
The name of an author counts wherever it stands, so that the authors of the other feed become
authors of the entry.

## Main definitions

* `Content.children`: the elements that stand directly within a tree.
* `IsForeign`: the elements that no field is for.
* `authorNames`: the names of authors within an element.

## Main results

* `Entry.ofElement_eq_foldl`: an entry is told by its children alone.
* `Entry.withChild_of_isForeign`: what an element adds that is no field.
* `exists_entriesOf_around`: the other entries of a feed do not depend on what is within one.
* `entriesOf_foreign_child`: what becomes of a feed when such an element is put in or taken out.
-/

namespace Metasearch

/-- The elements that stand directly within a tree. One that ends where it starts has nothing
within it. -/
def Xml.Content.children : Xml.Content → List Xml.Element
  | .nil => []
  | .element tag inside rest => ⟨tag, inside⟩ :: rest.children
  | .single tag rest => ⟨tag, .nil⟩ :: rest.children
  | .text _ rest | .verbatim _ rest => rest.children

namespace Answer

open Metasearch.Text Metasearch.Xml

variable {f : FeedState} {c inside inside' : Content} {e : Entry} {child : Element} {tag : Tag}
  {s name field parent : List Char} {outer path : List (List Char)} {front back : List Element}

/-! ### Names of authors -/

/-- The names of the elements that fields are for. -/
def fieldNames : List String :=
  ["title", "link", "description", "summary", "encoded", "content", "author", "creator", "pubDate",
    "published", "date", "updated", "category"]

/-- Holds of the names of elements that no field is for. -/
def IsForeign (name : List Char) : Prop :=
  String.ofList name ∉ fieldNames

instance : DecidablePred IsForeign :=
  fun name => inferInstanceAs (Decidable (String.ofList name ∉ fieldNames))

/-- A text, if it is the name of an author within two elements. -/
def nameText (field parent s : List Char) : List Char :=
  if field == "name".toList && parent == "author".toList then s else []

/-- The names of authors in a tree, whose elements stand within two others. -/
def namesWithin (field parent : List Char) : Content → List Char
  | .nil => []
  | .element tag inside rest =>
    namesWithin tag.localName field inside ++ namesWithin field parent rest
  | .single _ rest => namesWithin field parent rest
  | .text raw rest =>
    nameText field parent ((unescape? raw).getD raw) ++ namesWithin field parent rest
  | .verbatim raw rest => nameText field parent raw ++ namesWithin field parent rest

/-- Holds of elements that start no entry: they are none, and there is none within them. One with
nothing within it may have ended where it started, and then it starts none whatever its name. -/
def StartsNoEntry (x : Element) : Prop :=
  x.inside = .nil ∨ isEntry x = false ∧ entryElements x.inside = []

/-- The names of authors within an element. -/
def authorNames (x : Element) : List Char :=
  namesWithin x.tag.localName [] x.inside

theorem nameText_of_isEntryName (h : isEntryName name = true) :
    nameText field name s = nameText field [] s := by
  rw [isEntryName, Bool.or_eq_true, beq_iff_eq, beq_iff_eq] at h
  have hname : (name == "author".toList) = false := by rcases h with rfl | rfl <;> decide
  have hnil : (([] : List Char) == "author".toList) = false := by decide
  rw [nameText, nameText, hname, hnil]

/-- The element of an entry is no author. -/
theorem namesWithin_of_isEntryName (h : isEntryName name = true) (c : Content) :
    namesWithin field name c = namesWithin field [] c := by
  induction c with
  | nil => rfl
  | element tag inside rest _ ih => rw [namesWithin, namesWithin, ih]
  | single tag rest ih => exact ih
  | text raw rest ih => rw [namesWithin, namesWithin, nameText_of_isEntryName h, ih]
  | verbatim raw rest ih => rw [namesWithin, namesWithin, nameText_of_isEntryName h, ih]

namespace Entry

/-! ### Authors apart from all else -/

/-- The entry with other authors. -/
def withAuthor (e : Entry) (author : List Char) : Entry :=
  { e with author }

theorem withAttributes_withAuthor (e : Entry) (author : List Char) (t : Tag) :
    (e.withAuthor author).withAttributes t = (e.withAttributes t).withAuthor author := by
  dsimp only [withAttributes, withAuthor]
  split
  · split_ifs
    · cases t.attribute? "href" <;> rfl
    · rfl
  · cases t.attribute? "term" <;> rfl
  · rfl

theorem withTag_withAuthor (e : Entry) (author : List Char) (t : Tag) :
    (e.withAuthor author).withTag path t = (e.withTag path t).withAuthor author := by
  cases path with
  | nil => rfl
  | cons name outer =>
    rw [withTag, withTag, withAttributes_withAuthor]
    split_ifs <;> rfl

theorem exists_withField (e : Entry) (field : String) (s : List Char) : ∃ t, ∀ author,
    (e.withAuthor author).withField field s = (e.withField field s).withAuthor (author ++ t) := by
  by_cases hfield : field = "author" ∨ field = "creator"
  · exact ⟨s, fun author => by rcases hfield with rfl | rfl <;> rfl⟩
  · refine ⟨[], fun author => ?_⟩
    rw [not_or] at hfield
    rw [List.append_nil]
    dsimp only [withField, withAuthor]
    split
    case h_2 => split_ifs <;> rfl
    case h_7 => exact absurd rfl hfield.1
    case h_8 => exact absurd rfl hfield.2
    all_goals rfl

/-- What a text adds to the authors, and to all else, does not depend on the authors. -/
theorem exists_withText (e : Entry) (path : List (List Char)) (s : List Char) : ∃ t, ∀ author,
    (e.withAuthor author).withText path s = (e.withText path s).withAuthor (author ++ t) := by
  match path with
  | [] | [_] => exact ⟨[], fun author => by rw [List.append_nil]; rfl⟩
  | field :: parent :: _ =>
    obtain ⟨t, ht⟩ := exists_withField e (String.ofList field) s
    simp only [withText]
    split_ifs
    · exact ⟨s, fun _ => rfl⟩
    · exact ⟨t, ht⟩
    · exact ⟨[], fun author => by rw [List.append_nil]⟩

/-- **What a tree adds to the authors, and to all else, does not depend on the authors.** -/
theorem exists_withContent (e : Entry) (path : List (List Char)) (c : Content) : ∃ t, ∀ author,
    (e.withAuthor author).withContent path c =
      (e.withContent path c).withAuthor (author ++ t) := by
  induction c generalizing e path with
  | nil => exact ⟨[], fun author => by rw [List.append_nil]; rfl⟩
  | element tag inside rest ihInside ihRest =>
    obtain ⟨t, ht⟩ := ihInside (e.withTag path tag) (tag.localName :: path)
    obtain ⟨u, hu⟩ := ihRest ((e.withTag path tag).withContent (tag.localName :: path) inside) path
    refine ⟨t ++ u, fun author => ?_⟩
    rw [withContent, withTag_withAuthor, ht, hu, List.append_assoc]
    rfl
  | single tag rest ih =>
    obtain ⟨t, ht⟩ := ih (e.withTag path tag) path
    exact ⟨t, fun author => by rw [withContent, withTag_withAuthor, ht]; rfl⟩
  | text raw rest ih =>
    obtain ⟨t, ht⟩ := exists_withText e path ((unescape? raw).getD raw)
    obtain ⟨u, hu⟩ := ih (e.withText path ((unescape? raw).getD raw)) path
    exact ⟨t ++ u, fun author => by rw [withContent, ht, hu, List.append_assoc]; rfl⟩
  | verbatim raw rest ih =>
    obtain ⟨t, ht⟩ := exists_withText e path raw
    obtain ⟨u, hu⟩ := ih (e.withText path raw) path
    exact ⟨t ++ u, fun author => by rw [withContent, ht, hu, List.append_assoc]; rfl⟩

/-! ### Child by child -/

/-- What a child of an element adds to its entry. -/
def withChild (name : List Char) (e : Entry) (x : Element) : Entry :=
  (e.withTag [name] x.tag).withContent [x.tag.localName, name] x.inside

theorem withContent_eq_foldl (h : isEntryName name = true) (e : Entry) (c : Content) :
    e.withContent [name] c = c.children.foldl (withChild name) e := by
  induction c generalizing e with
  | nil => rfl
  | element tag inside rest _ ih => exact ih _
  | single tag rest ih => exact ih _
  | text raw rest ih =>
    rw [withContent, withText_of_isEntryName h]
    exact ih e
  | verbatim raw rest ih =>
    rw [withContent, withText_of_isEntryName h]
    exact ih e

/-- **An entry is told by its children alone.** Text between them does not count. -/
theorem ofElement_eq_foldl (h : isEntryName tag.localName = true) (inside : Content) :
    ofElement ⟨tag, inside⟩ = inside.children.foldl (withChild tag.localName) empty :=
  withContent_eq_foldl h empty inside

theorem exists_foldl_withChild (name : List Char) (e : Entry) (children : List Element) :
    ∃ t, ∀ author, children.foldl (withChild name) (e.withAuthor author) =
      (children.foldl (withChild name) e).withAuthor (author ++ t) := by
  induction children generalizing e with
  | nil => exact ⟨[], fun author => by rw [List.append_nil]; rfl⟩
  | cons x rest ih =>
    obtain ⟨t, ht⟩ := exists_withContent (e.withTag [name] x.tag) [x.tag.localName, name] x.inside
    obtain ⟨u, hu⟩ := ih (e.withChild name x)
    refine ⟨t ++ u, fun author => ?_⟩
    rw [List.foldl_cons, withChild, withTag_withAuthor, ht, ← List.append_assoc]
    exact hu _

/-! ### Children that are no fields -/

theorem withField_of_isForeign (h : IsForeign field) (e : Entry) :
    e.withField (String.ofList field) s = e := by
  rw [IsForeign] at h
  unfold withField
  split
  case h_14 => rfl
  all_goals
    rename_i heq
    rw [heq] at h
    exact absurd h (by decide)

theorem withAttributes_of_isForeign (h : IsForeign tag.localName) (e : Entry) :
    e.withAttributes tag = e := by
  rw [IsForeign] at h
  unfold withAttributes
  split
  case h_3 => rfl
  all_goals
    rename_i heq
    rw [heq] at h
    exact absurd h (by decide)

/-- Away from the fields of an entry, a text is the name of an author or nothing. -/
theorem withText_away (h : isEntryName parent = false ∨ IsForeign field) :
    e.withText (field :: parent :: outer) s =
      e.withAuthor (e.author ++ nameText field parent s) := by
  rw [withText, nameText]
  cases field == "name".toList && parent == "author".toList with
  | true => rfl
  | false =>
    rw [if_neg Bool.false_ne_true, if_neg Bool.false_ne_true, List.append_nil]
    rcases h with hparent | hfield
    · rw [hparent]
      rfl
    · rw [withField_of_isForeign hfield, ite_self]
      rfl

theorem withTag_away (h : isEntryName field = false) (t : Tag) :
    e.withTag (field :: outer) t = e := by
  rw [withTag, h, if_neg Bool.false_ne_true]

/-- **Away from the fields of an entry, a tree adds the names of its authors.** -/
theorem withContent_away (hfield : isEntryName field = false)
    (h : isEntryName parent = false ∨ IsForeign field) (hc : entryElements c = []) :
    e.withContent (field :: parent :: outer) c =
      e.withAuthor (e.author ++ namesWithin field parent c) := by
  induction c generalizing e field parent outer with
  | nil =>
    rw [namesWithin, List.append_nil]
    rfl
  | element tag inside rest ihInside ihRest =>
    obtain ⟨hname, hinside, hrest⟩ := entryElements_element_eq_nil_iff.mp hc
    -- within the element nothing is directly under an entry
    rw [withContent, withTag_away hfield, ihInside hname (Or.inl hfield) hinside,
      ihRest hfield h hrest, namesWithin, ← List.append_assoc]
    rfl
  | single tag rest ih =>
    rw [withContent, withTag_away hfield]
    exact ih hfield h hc
  | text raw rest ih =>
    rw [withContent, withText_away h, ih hfield h hc, namesWithin, ← List.append_assoc]
    rfl
  | verbatim raw rest ih =>
    rw [withContent, withText_away h, ih hfield h hc, namesWithin, ← List.append_assoc]
    rfl

/-- **An element that is no field adds the names of the authors within it.** -/
theorem withChild_of_isForeign (hname : isEntryName name = true)
    (hforeign : IsForeign child.tag.localName) (hchild : StartsNoEntry child) :
    e.withChild name child = e.withAuthor (e.author ++ authorNames child) := by
  rw [withChild, withTag, if_pos hname, withAttributes_of_isForeign hforeign, authorNames,
    ← namesWithin_of_isEntryName hname]
  rcases hchild with hnil | ⟨hentry, hinside⟩
  · rw [hnil, namesWithin, List.append_nil]
    rfl
  · exact withContent_away hentry (Or.inr hforeign) hinside

/-- **What becomes of an entry when an element that is no field is put in.** -/
theorem ofElement_of_isForeign (htag : isEntryName tag.localName = true)
    (hold : inside.children = front ++ back) (hnew : inside'.children = front ++ child :: back)
    (hforeign : IsForeign child.tag.localName) (hchild : StartsNoEntry child) :
    ∃ a b, (ofElement ⟨tag, inside⟩).author = a ++ b ∧ ofElement ⟨tag, inside'⟩ =
      (ofElement ⟨tag, inside⟩).withAuthor (a ++ authorNames child ++ b) := by
  obtain ⟨b, hb⟩ := exists_foldl_withChild tag.localName
    (front.foldl (withChild tag.localName) empty) back
  have hold' := hb (front.foldl (withChild tag.localName) empty).author
  rw [ofElement_eq_foldl htag, ofElement_eq_foldl htag, hold, hnew, List.foldl_append,
    List.foldl_append, List.foldl_cons, withChild_of_isForeign htag hforeign hchild, hb]
  exact ⟨_, b, congrArg author hold', rfl⟩

theorem withAuthor_eq_self_iff {a b names : List Char} (h : e.author = a ++ b) :
    e.withAuthor (a ++ names ++ b) = e ↔ names = [] := by
  constructor
  · intro heq
    have hlength := congrArg List.length ((congrArg author heq).trans h)
    rw [withAuthor, List.length_append, List.length_append, List.length_append] at hlength
    exact List.eq_nil_of_length_eq_zero (by omega)
  · rintro rfl
    rw [List.append_nil, ← h]
    rfl

end Entry

/-! ### The other entries of a feed -/

namespace FeedState

variable {root : List Char}

/-- What is complete is not looked at again. -/
theorem exists_next (root : List Char) (path : List (List Char)) (current : Option Entry)
    (event : Event) : ∃ path' current' more, ∀ entries,
      next ⟨some root, path, current, entries⟩ event =
        .ok ⟨some root, path', current', more ++ entries⟩ := by
  cases event with
  | start t =>
    cases h : isEntryName t.localName with
    | true => exact ⟨_, _, [], fun _ => next_start_entry h⟩
    | false => exact ⟨_, _, [], fun _ => next_start h⟩
  | single t => exact ⟨_, _, [], fun _ => next_single⟩
  | finish name =>
    cases h : isEntryName (Xml.localName name) with
    | true =>
      refine ⟨path.tail, none, current.toList, fun entries => ?_⟩
      simp only [next, leave, h, if_true]
    | false =>
      refine ⟨path.tail, current, [], fun entries => ?_⟩
      simp only [next, leave, h, Bool.false_eq_true, if_false, List.nil_append]
  | text raw =>
    exact ⟨path, current.map fun e => e.withText path ((unescape? raw).getD raw), [], fun _ => rfl⟩
  | verbatim raw => exact ⟨path, current.map fun e => e.withText path raw, [], fun _ => rfl⟩

theorem exists_leads (root : List Char) (path : List (List Char)) (current : Option Entry)
    (events : List Event) : ∃ path' current' more, ∀ entries,
      Leads ⟨some root, path, current, entries⟩ events
        ⟨some root, path', current', more ++ entries⟩ := by
  induction events generalizing path current with
  | nil => exact ⟨path, current, [], fun _ => rfl⟩
  | cons event rest ih =>
    obtain ⟨path', current', more, hnext⟩ := exists_next root path current event
    obtain ⟨path'', current'', more', hrest⟩ := ih path' current'
    refine ⟨path'', current'', more' ++ more, fun entries => .cons (hnext entries) ?_⟩
    rw [List.append_assoc]
    exact hrest (more ++ entries)

end FeedState

/-- **The other entries of a feed do not depend on what is within one.** What stands before it and
behind it may be anything, as long as the feed has begun. -/
theorem exists_entriesOf_around {pre : List Event} (hpre : FeedState.Leads .start pre f)
    (hroot : f.root.isSome = true) (htag : isEntryName tag.localName = true)
    (post : List Event) :
    ∃ earlier later, ∀ inside, entryElements inside = [] →
      entriesOf ⟨pre ++ ((⟨tag, inside⟩ : Element).alone.events ++ post), true⟩ =
        .ok (earlier ++ Entry.ofElement ⟨tag, inside⟩ :: later) := by
  obtain ⟨root, path, current, entries⟩ := f
  obtain ⟨root, rfl⟩ := Option.isSome_iff_exists.mp hroot
  obtain ⟨path', current', more, hpost⟩ := FeedState.exists_leads root path none post
  refine ⟨entries.reverse, more.reverse, fun inside hinside => ?_⟩
  have hentry : Entry.empty.withContent (tag.localName :: path) inside =
      Entry.ofElement ⟨tag, inside⟩ :=
    @Entry.withContent_congr inside Entry.empty tag.localName [] path [] htag
  have hread : FeedState.Leads ⟨some root, tag.localName :: path, some Entry.empty, entries⟩
      inside.events
      ⟨some root, tag.localName :: path, some (Entry.ofElement ⟨tag, inside⟩), entries⟩ :=
    hentry ▸ FeedState.leads_inside hinside
  have hclosed : FeedState.Leads ⟨some root, path, current, entries⟩
      (⟨tag, inside⟩ : Element).alone.events
      ⟨some root, path, none, Entry.ofElement ⟨tag, inside⟩ :: entries⟩ :=
    .cons (FeedState.next_start_entry htag)
      (hread.append (.cons (FeedState.next_finish_entry htag) rfl))
  have hall : FeedState.Leads .start (pre ++ ((⟨tag, inside⟩ : Element).alone.events ++ post))
      ⟨some root, path', current', more ++ Entry.ofElement ⟨tag, inside⟩ :: entries⟩ :=
    hpre.append (hclosed.append (hpost _))
  rw [FeedState.Leads] at hall
  rw [entriesOf, hall]
  change Except.ok (List.reverse _) = _
  rw [List.reverse_append, List.reverse_cons, List.append_assoc, List.singleton_append]

theorem startsNoEntry_of_mem_children (hc : entryElements c = []) (h : child ∈ c.children) :
    StartsNoEntry child := by
  induction c with
  | nil => exact absurd h List.not_mem_nil
  | element tag inside rest _ ih =>
    obtain ⟨hname, hinside, hrest⟩ := entryElements_element_eq_nil_iff.mp hc
    rcases List.mem_cons.mp h with rfl | h
    · exact Or.inr ⟨hname, hinside⟩
    · exact ih hrest h
  | single tag rest ih =>
    rcases List.mem_cons.mp h with rfl | h
    · exact Or.inl rfl
    · exact ih hc h
  | text raw rest ih => exact ih hc h
  | verbatim raw rest ih => exact ih hc h

/-- **What becomes of a feed when an element that is no field is put into an entry.** All other
entries stay as they are. The entry itself gets the names of the authors within the element, in
their place among its own; it stays as it is exactly when there are none. Text directly within the
entry may be anything, before and after. -/
theorem entriesOf_foreign_child {pre : List Event} (hpre : FeedState.Leads .start pre f)
    (hroot : f.root.isSome = true) (htag : isEntryName tag.localName = true)
    (hinside : entryElements inside = []) (hinside' : entryElements inside' = [])
    (hold : inside.children = front ++ back) (hnew : inside'.children = front ++ child :: back)
    (hforeign : IsForeign child.tag.localName) (post : List Event) :
    ∃ earlier x y later,
      entriesOf ⟨pre ++ ((⟨tag, inside⟩ : Element).alone.events ++ post), true⟩ =
        .ok (earlier ++ x :: later) ∧
      entriesOf ⟨pre ++ ((⟨tag, inside'⟩ : Element).alone.events ++ post), true⟩ =
        .ok (earlier ++ y :: later) ∧
      (∃ a b, x.author = a ++ b ∧ y = { x with author := a ++ authorNames child ++ b }) ∧
      (y = x ↔ authorNames child = []) := by
  obtain ⟨earlier, later, haround⟩ := exists_entriesOf_around hpre hroot htag post
  have hmem : child ∈ inside'.children := by
    rw [hnew]
    exact List.mem_append_right front List.mem_cons_self
  obtain ⟨a, b, hauthor, hentry⟩ := Entry.ofElement_of_isForeign htag hold hnew hforeign
    (startsNoEntry_of_mem_children hinside' hmem)
  refine ⟨earlier, _, _, later, haround inside hinside, haround inside' hinside',
    ⟨a, b, hauthor, hentry⟩, ?_⟩
  rw [hentry]
  exact Entry.withAuthor_eq_self_iff hauthor

/-- What stands within an entry with a title. -/
def titledEntry : Content :=
  .element ⟨"title".toList, []⟩ (.text "T".toList .nil) .nil

/-- A feed that an entry was taken from. -/
def otherFeed : Element :=
  ⟨⟨"source".toList, []⟩, .element ⟨"title".toList, []⟩ (.text "S".toList .nil)
    (.element ⟨"updated".toList, []⟩ (.text "2024-05-01T00:00:00Z".toList .nil) .nil)⟩

/-- What stands within the entry that was taken from it. -/
def sourcedEntry : Content :=
  .element ⟨"title".toList, []⟩ (.text "T".toList .nil)
    (.text "from".toList (.element otherFeed.tag otherFeed.inside .nil))

/-- The title of the other feed is not that of the entry. -/
theorem entriesOf_foreign_child_source :
    let feed (inside : Content) : List Event := [.start ⟨"feed".toList, []⟩] ++
      ((⟨⟨"entry".toList, []⟩, inside⟩ : Element).alone.events ++ [.finish "feed".toList])
    ∃ entries, entriesOf ⟨feed titledEntry, true⟩ = .ok entries ∧
      entriesOf ⟨feed sourcedEntry, true⟩ = .ok entries := by
  intro feed
  have hpre : FeedState.Leads .start [.start ⟨"feed".toList, []⟩]
      ⟨some "feed".toList, ["feed".toList], none, []⟩ := rfl
  have htag : isEntryName (Tag.localName ⟨"entry".toList, []⟩) = true := by decide
  have htitled : entryElements titledEntry = [] := rfl
  have hsourced : entryElements sourcedEntry = [] := rfl
  have hold : titledEntry.children = titledEntry.children ++ [] := (List.append_nil _).symm
  have hnew : sourcedEntry.children = titledEntry.children ++ [otherFeed] := rfl
  have hforeign : IsForeign otherFeed.tag.localName := by decide
  obtain ⟨earlier, x, y, later, hx, hy, -, hsame⟩ := entriesOf_foreign_child hpre rfl htag htitled
    hsourced hold hnew hforeign [.finish "feed".toList]
  have hnames : y = x := hsame.mpr rfl
  exact ⟨_, hx, hnames ▸ hy⟩

/-- The author of the other feed is one of the entry. -/
theorem entriesOf_foreign_author :
    let front := "<feed><entry><title>T</title><author><name>Ann</name></author>"
    let source := "<source><title>S</title><author><name>Bob</name></author></source>"
    let back := "</entry></feed>"
    let authors (text : String) : Option (List (List Char)) :=
      (entriesOf (Xml.read text.toList)).toOption.map fun entries => entries.map Entry.author
    IsForeign "source".toList ∧ authors (front ++ back) = some ["Ann".toList] ∧
      authors (front ++ source ++ back) = some ["AnnBob".toList] :=
  ⟨by decide +kernel, by decide +kernel, by decide +kernel⟩

end Answer
end Metasearch
