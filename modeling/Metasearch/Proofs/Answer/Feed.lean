import Mathlib.Data.List.Forall2
import Metasearch.Answer.Feed
import Metasearch.Proofs.Xml.Reader

/-!
# Feeds element by element

Reading a feed keeps one entry at a time, and a path. Between the tags of an entry only the path
below it is looked at, and outside of entries nothing is kept; so the entries of a feed are those of
its elements, each told by what stands within the element. Nothing of the rest of the document gets
into it: it is the same in a feed that has no other element.

## Main definitions

* `Entry.withContent`, `Entry.ofElement`: what the tree of an entry says.
* `FeedState.Leads`: events that are read one after the other.
* `IsFeed`: a document that is a feed, with its tree.
* `IsAlone`: a feed with one element.

## Main results

* `FeedState.leads_inside`, `FeedState.leads_outside`: the reading of a tree.
* `IsFeed.entriesOf_eq`: the entries of a feed are those of its elements.
* `entriesOf_isFeed`: each of them is that of its element alone.
-/

namespace Metasearch.Answer

open Metasearch.Text Metasearch.Xml

variable {f : FeedState} {c : Content} {e : Entry} {s name : List Char}
  {inner outer outer' path : List (List Char)}

/-! ### Entries told by their trees -/

namespace Entry

/-- What a tag adds to an entry, where it stands in the elements of a path. -/
def withTag (e : Entry) (path : List (List Char)) (t : Tag) : Entry :=
  match path with
  | name :: _ => if isEntryName name then e.withAttributes t else e
  | [] => e

/-- What the tree of an element adds to an entry; the element is the innermost of the path. -/
def withContent (e : Entry) (path : List (List Char)) : Content → Entry
  | .nil => e
  | .element tag inside rest =>
    ((e.withTag path tag).withContent (tag.localName :: path) inside).withContent path rest
  | .single tag rest => (e.withTag path tag).withContent path rest
  | .text raw rest => (e.withText path ((unescape? raw).getD raw)).withContent path rest
  | .verbatim raw rest => (e.withText path raw).withContent path rest

/-- The entry of an element. -/
def ofElement (e : Element) : Entry :=
  empty.withContent [e.tag.localName] e.inside

/-- Text directly within an entry is in no field. -/
theorem withText_of_isEntryName (h : isEntryName name = true) :
    e.withText (name :: outer) s = e := by
  rw [isEntryName, Bool.or_eq_true, beq_iff_eq, beq_iff_eq] at h
  have hname : (name == "name".toList) = false := by rcases h with rfl | rfl <;> decide
  have hfield : e.withField (String.ofList name) s = e := by rcases h with rfl | rfl <;> rfl
  cases outer with
  | nil => rfl
  | cons parent outer =>
    rw [withText, hname, Bool.false_and, if_neg Bool.false_ne_true, hfield, ite_self]

/-- Text is told where it belongs by the two innermost elements. -/
theorem withText_congr (h : isEntryName name = true) :
    e.withText (inner ++ name :: outer) s = e.withText (inner ++ name :: outer') s := by
  match inner with
  | [] =>
    rw [List.nil_append, List.nil_append, withText_of_isEntryName h, withText_of_isEntryName h]
  | [_] => rfl
  | _ :: _ :: _ => rfl

theorem withTag_congr (t : Tag) :
    e.withTag (inner ++ name :: outer) t = e.withTag (inner ++ name :: outer') t := by
  cases inner with
  | nil => rfl
  | cons => rfl

/-- **What an entry is in does not matter.** -/
theorem withContent_congr (h : isEntryName name = true) :
    e.withContent (inner ++ name :: outer) c = e.withContent (inner ++ name :: outer') c := by
  induction c generalizing e inner with
  | nil => rfl
  | element tag inside rest ihInside ihRest =>
    have htag : e.withTag (inner ++ name :: outer) tag = e.withTag (inner ++ name :: outer') tag :=
      withTag_congr tag
    have hinside (e : Entry) : e.withContent (tag.localName :: (inner ++ name :: outer)) inside =
        e.withContent (tag.localName :: (inner ++ name :: outer')) inside :=
      @ihInside e (tag.localName :: inner)
    rw [withContent, withContent, htag, hinside, ihRest]
  | single tag rest ih =>
    have htag : e.withTag (inner ++ name :: outer) tag = e.withTag (inner ++ name :: outer') tag :=
      withTag_congr tag
    rw [withContent, withContent, htag, ih]
  | text raw rest ih => rw [withContent, withContent, withText_congr h, ih]
  | verbatim raw rest ih => rw [withContent, withContent, withText_congr h, ih]

end Entry

/-! ### The entries of a tree -/

/-- Holds of the elements that are entries. -/
def isEntry (e : Element) : Bool :=
  isEntryName e.tag.localName

/-- The elements of a tree that are entries, in the order in which they start. -/
def entryElements (c : Content) : List Element :=
  c.elements.filter isEntry

/-- No entry stands within another one. -/
def EntriesApart (c : Content) : Prop :=
  ∀ e ∈ entryElements c, entryElements e.inside = []

theorem entryElements_of_isEntryName {tag : Tag} (h : isEntryName tag.localName = true)
    (inside rest : Content) : entryElements (.element tag inside rest) =
      ⟨tag, inside⟩ :: (entryElements inside ++ entryElements rest) := by
  have hentry : isEntry ⟨tag, inside⟩ = true := h
  rw [entryElements, Content.elements, List.filter_cons_of_pos hentry, List.filter_append]
  rfl

theorem entryElements_of_not_isEntryName {tag : Tag} (h : isEntryName tag.localName = false)
    (inside rest : Content) : entryElements (.element tag inside rest) =
      entryElements inside ++ entryElements rest := by
  rw [entryElements, Content.elements,
    List.filter_cons_of_neg (by rw [isEntry, h]; exact Bool.false_ne_true), List.filter_append]
  rfl

theorem entryElements_element_eq_nil_iff {tag : Tag} {inside rest : Content} :
    entryElements (.element tag inside rest) = [] ↔
      isEntryName tag.localName = false ∧ entryElements inside = [] ∧ entryElements rest = [] := by
  cases htag : isEntryName tag.localName with
  | true =>
    rw [entryElements_of_isEntryName htag]
    simp
  | false =>
    rw [entryElements_of_not_isEntryName htag, List.append_eq_nil_iff]
    simp

theorem EntriesApart.of_element {tag : Tag} {inside rest : Content}
    (h : EntriesApart (.element tag inside rest)) : EntriesApart inside ∧ EntriesApart rest := by
  have hsub : entryElements inside ++ entryElements rest ⊆
      entryElements (.element tag inside rest) := by
    cases htag : isEntryName tag.localName with
    | true =>
      rw [entryElements_of_isEntryName htag]
      exact List.subset_cons_self _ _
    | false =>
      rw [entryElements_of_not_isEntryName htag]
      exact List.Subset.refl _
  exact ⟨fun e he => h e (hsub (List.mem_append_left _ he)),
    fun e he => h e (hsub (List.mem_append_right _ he))⟩

/-! ### The reading of a tree -/

namespace FeedState

variable {root : List Char} {current : Option Entry} {entries : List Entry} {t : Tag}

theorem noting_eq (f : FeedState) (t : Tag) :
    f.noting t = { f with current := f.current.map fun e => e.withTag f.path t } := by
  obtain ⟨root, path, current, entries⟩ := f
  rw [noting, isUnderEntry]
  cases path with
  | nil => cases current <;> rfl
  | cons name path =>
    dsimp only [Entry.withTag]
    split_ifs
    · rfl
    · cases current <;> rfl

theorem next_start (h : isEntryName t.localName = false) :
    next ⟨some root, path, current, entries⟩ (.start t) = .ok ⟨some root, t.localName :: path,
      current.map fun e => e.withTag path t, entries⟩ := by
  simp only [next, Option.isNone_some, Bool.false_eq_true, if_false, h, noting_eq]

theorem next_start_entry (h : isEntryName t.localName = true) :
    next ⟨some root, path, current, entries⟩ (.start t) =
      .ok ⟨some root, t.localName :: path, some Entry.empty, entries⟩ := by
  simp only [next, Option.isNone_some, Bool.false_eq_true, if_false, h, if_true]

theorem next_single : next ⟨some root, path, current, entries⟩ (.single t) =
    .ok ⟨some root, path, current.map fun e => e.withTag path t, entries⟩ := by
  simp only [next, Option.isNone_some, Bool.false_eq_true, if_false, noting_eq]

theorem next_finish (h : isEntryName t.localName = false) :
    next ⟨some root, name :: path, current, entries⟩ (.finish t.name) =
      .ok ⟨some root, path, current, entries⟩ := by
  rw [Tag.localName] at h
  simp only [next, leave, h, Bool.false_eq_true, if_false, List.tail_cons]

theorem next_finish_entry (h : isEntryName t.localName = true) :
    next ⟨some root, name :: path, some e, entries⟩ (.finish t.name) =
      .ok ⟨some root, path, none, e :: entries⟩ := by
  rw [Tag.localName] at h
  simp only [next, leave, h, if_true, List.tail_cons, Option.toList_some, List.singleton_append]

/-- A series of events leads from one state to another. -/
def Leads (f : FeedState) (es : List Event) (f' : FeedState) : Prop :=
  es.foldlM next f = .ok f'

variable {f₁ f₂ f₃ : FeedState} {es es' : List Event}

theorem Leads.cons {e : Event} (h : next f₁ e = .ok f₂) (h' : Leads f₂ es f₃) :
    Leads f₁ (e :: es) f₃ := by
  rw [Leads, List.foldlM_cons, h]
  exact h'

theorem Leads.append (h : Leads f₁ es f₂) (h' : Leads f₂ es' f₃) : Leads f₁ (es ++ es') f₃ := by
  rw [Leads, List.foldlM_append, h]
  exact h'

/-- **A tree without entries adds what it says** to the entry that is being read, if there is
one. -/
theorem leads_inside (hc : entryElements c = []) :
    Leads ⟨some root, path, current, entries⟩ c.events
      ⟨some root, path, current.map fun e => e.withContent path c, entries⟩ := by
  induction c generalizing path current with
  | nil =>
    rw [show (fun e : Entry => e.withContent path .nil) = id from rfl, Option.map_id]
    rfl
  | element tag inside rest ihInside ihRest =>
    obtain ⟨htag, hcInside, hcRest⟩ := entryElements_element_eq_nil_iff.mp hc
    have hinside := @ihInside (tag.localName :: path) (current.map fun e => e.withTag path tag)
      hcInside
    have hrest := @ihRest path (current.map fun e =>
      (e.withTag path tag).withContent (tag.localName :: path) inside) hcRest
    rw [Option.map_map] at hinside hrest
    exact .cons (next_start htag) (hinside.append (.cons (next_finish htag) hrest))
  | single tag rest ih =>
    have hrest := @ih path (current.map fun e => e.withTag path tag) hc
    rw [Option.map_map] at hrest
    exact .cons next_single hrest
  | text raw rest ih =>
    have hrest := @ih path (current.map fun e => e.withText path ((unescape? raw).getD raw)) hc
    rw [Option.map_map] at hrest
    exact .cons rfl hrest
  | verbatim raw rest ih =>
    have hrest := @ih path (current.map fun e => e.withText path raw) hc
    rw [Option.map_map] at hrest
    exact .cons rfl hrest

/-- **Where no entry is being read, a tree adds the entries of its elements.** -/
theorem leads_outside (hc : EntriesApart c) :
    Leads ⟨some root, path, none, entries⟩ c.events
      ⟨some root, path, none, ((entryElements c).map Entry.ofElement).reverse ++ entries⟩ := by
  induction c generalizing path entries with
  | nil => rfl
  | element tag inside rest ihInside ihRest =>
    obtain ⟨hinside, hrest⟩ := hc.of_element
    cases htag : isEntryName tag.localName with
    | true =>
      -- the entry starts empty, and nothing within it starts another one
      have hfree : entryElements inside = [] :=
        hc ⟨tag, inside⟩ (by rw [entryElements_of_isEntryName htag]; exact List.mem_cons_self)
      have hentry : Entry.empty.withContent (tag.localName :: path) inside =
          Entry.ofElement ⟨tag, inside⟩ :=
        @Entry.withContent_congr inside Entry.empty tag.localName [] path [] htag
      have hread : Leads ⟨some root, tag.localName :: path, some Entry.empty, entries⟩ inside.events
          ⟨some root, tag.localName :: path, some (Entry.ofElement ⟨tag, inside⟩), entries⟩ :=
        hentry ▸ leads_inside hfree
      rw [entryElements_of_isEntryName htag, hfree, List.nil_append, List.map_cons,
        List.reverse_cons, List.append_assoc]
      exact .cons (next_start_entry htag)
        (hread.append (.cons (next_finish_entry htag) (ihRest hrest)))
    | false =>
      rw [entryElements_of_not_isEntryName htag, List.map_append, List.reverse_append,
        List.append_assoc]
      exact .cons (next_start htag)
        ((ihInside hinside).append (.cons (next_finish htag) (ihRest hrest)))
  | single tag rest ih => exact .cons next_single (ih hc)
  | text raw rest ih => exact .cons rfl (ih hc)
  | verbatim raw rest ih => exact .cons rfl (ih hc)

theorem isEntryName_of_isRoot (h : isRoot name = true) : isEntryName name = false := by
  have hall : ∀ name ∈ ["rss".toList, "feed".toList, "RDF".toList], isEntryName name = false := by
    decide
  exact hall name (List.contains_iff_mem.mp h)

/-- **A tree is read from its first tag on**, which is the outermost element. -/
theorem exists_leads_start {tag : Tag} (hroot : c.root? = some tag)
    (hfeed : isRoot tag.localName = true) (hc : EntriesApart c) :
    ∃ path, Leads start c.events ⟨some tag.localName, path, none,
      ((entryElements c).map Entry.ofElement).reverse⟩ := by
  have hentry := isEntryName_of_isRoot hfeed
  -- what stands in front of the first tag is text, which no entry takes
  have henter : enter start tag = .ok ⟨some tag.localName, [tag.localName], none, []⟩ := by
    rw [enter, if_pos hfeed]
    rfl
  induction c with
  | nil => cases hroot
  | element root inside rest =>
    obtain rfl := Option.some.inj hroot
    obtain ⟨hinside, hrest⟩ := hc.of_element
    refine ⟨[], ?_⟩
    rw [entryElements_of_not_isEntryName hentry, List.map_append, List.reverse_append,
      ← List.append_nil (List.reverse (List.map _ (entryElements inside)))]
    exact .cons henter
      ((leads_outside hinside).append (.cons (next_finish hentry) (leads_outside hrest)))
  | single root rest =>
    obtain rfl := Option.some.inj hroot
    refine ⟨[root.localName], ?_⟩
    rw [← List.append_nil (List.reverse _)]
    exact .cons henter (leads_outside (c := rest) hc)
  | text raw rest ih =>
    obtain ⟨path, hrest⟩ := ih hroot hc
    exact ⟨path, .cons rfl hrest⟩
  | verbatim raw rest ih =>
    obtain ⟨path, hrest⟩ := ih hroot hc
    exact ⟨path, .cons rfl hrest⟩

end FeedState

/-! ### Feeds -/

/-- A document that is a feed, and its tree. -/
structure IsFeed (s : List Char) (c : Content) : Prop where
  /-- The document is read to its end, and every element in it ends. -/
  read_eq : Xml.read s = ⟨c.events, true⟩
  /-- Its outermost element is that of a feed. -/
  isRoot : ∃ tag, c.root? = some tag ∧ FeedState.isRoot tag.localName = true
  /-- No entry stands within another one. -/
  apart : EntriesApart c

/-- **The entries of a feed are those of its elements.** -/
theorem IsFeed.entriesOf_eq (h : IsFeed s c) :
    entriesOf (Xml.read s) = .ok ((entryElements c).map Entry.ofElement) := by
  obtain ⟨tag, hroot, hfeed⟩ := h.isRoot
  obtain ⟨path, hleads⟩ := FeedState.exists_leads_start hroot hfeed h.apart
  rw [FeedState.Leads] at hleads
  rw [h.read_eq, entriesOf, hleads]
  change Except.ok (List.reverse (List.reverse _)) = _
  rw [List.reverse_reverse]

/-- A feed with one element. -/
def IsAlone (e : Element) (doc : List Char) : Prop :=
  ∃ tag, IsFeed doc (.element tag e.alone .nil)

theorem entryElements_alone {e : Element} {tag : Tag} (htag : FeedState.isRoot tag.localName = true)
    (hentry : isEntry e = true) (hinside : entryElements e.inside = []) :
    entryElements (.element tag e.alone .nil) = [e] := by
  rw [entryElements_of_not_isEntryName (FeedState.isEntryName_of_isRoot htag), Element.alone,
    entryElements_of_isEntryName hentry, hinside]
  rfl

theorem entriesOf_isAlone {e : Element} {doc : List Char} (h : IsAlone e doc)
    (hentry : isEntry e = true) (hinside : entryElements e.inside = []) :
    entriesOf (Xml.read doc) = .ok [Entry.ofElement e] := by
  obtain ⟨tag, hfeed⟩ := h
  obtain ⟨root, hroot, htag⟩ := hfeed.isRoot
  obtain rfl := Option.some.inj hroot
  rw [hfeed.entriesOf_eq, entryElements_alone htag hentry hinside]
  rfl

/-- The document of a feed around a stretch of another document. -/
def feedAround (p : List Char) : List Char :=
  "<rss>".toList ++ (p ++ "</rss>".toList)

theorem isPiece_start : IsPiece "<rss>".toList (some (.start ⟨"rss".toList, []⟩)) where
  exists_cons := ⟨'<', "rss>".toList, rfl, rfl⟩
  takes := by
    intro opened final t hfinal _
    obtain rfl := Option.some.inj hfinal
    rfl

theorem isPiece_finish : IsPiece "</rss>".toList (some (.finish "rss".toList)) where
  exists_cons := ⟨'<', "/rss>".toList, rfl, rfl⟩
  takes := by
    intro opened final t hfinal _
    obtain rfl := Event.after_finish_eq_some_iff.mp hfinal
    rfl

theorem isAlone_feedAround {e : Element} {p : List Char} (hp : Spells p e.alone.events)
    (hentry : isEntry e = true) (hinside : entryElements e.inside = []) :
    IsAlone e (feedAround p) := by
  have hclose : Spells "</rss>".toList [.finish "rss".toList] :=
    .piece isPiece_finish (fits_of_ne_text (by simp) []) .nil
  have hspells : Spells (feedAround p)
      (Content.element ⟨"rss".toList, []⟩ e.alone .nil).events :=
    .piece isPiece_start (fits_of_ne_text (by simp) _)
      (hp.append hclose fun c hc => (Option.some.inj hc).symm)
  have hroot : FeedState.isRoot (Tag.localName ⟨"rss".toList, []⟩) = true := by decide
  have hhead : (feedAround p).head? = some '<' := rfl
  refine ⟨⟨"rss".toList, []⟩, ?_, ⟨_, rfl, hroot⟩, ?_⟩
  · exact read_of_spells hspells (by rw [hhead]; decide) (Content.after_events _ [])
  · intro e' he'
    rw [entryElements_alone hroot hentry hinside, List.mem_singleton] at he'
    rw [he', hinside]

/-- **Each entry of a feed is that of its element, read from a feed that has no other element.** -/
theorem entriesOf_isFeed (h : IsFeed s c) :
    ∃ entries, entriesOf (Xml.read s) = .ok entries ∧ List.Forall₂
      (fun e x => (∃ p, p <:+: s ∧ IsAlone e (feedAround p)) ∧
        ∀ doc, IsAlone e doc → entriesOf (Xml.read doc) = .ok [x]) (entryElements c) entries := by
  refine ⟨_, h.entriesOf_eq, List.forall₂_map_right_iff.mpr (List.forall₂_same.mpr fun e he => ?_)⟩
  have hentry : isEntry e = true := (List.mem_filter.mp he).2
  have hinside : entryElements e.inside = [] := h.apart e he
  obtain ⟨s', hs', hspells⟩ := exists_spells_of_read h.read_eq
  have hevents := Content.events_infix_of_mem (List.mem_filter.mp he).1
  obtain ⟨p, hp, hpiece⟩ := hspells.exists_infix hevents
  exact ⟨⟨p, hp.trans hs', isAlone_feedAround hpiece hentry hinside⟩,
    fun doc hdoc => entriesOf_isAlone hdoc hentry hinside⟩

/-- A feed with a title of its own, an item that ends where it starts, and text between items. -/
def newsText : String :=
  "<rss><title>News</title><item/><item><title>A &amp; <b>B</b></title></item>, <a:item>" ++
    "<author><name>C</name></author></a:item></rss>"

/-- The first entry of it. -/
def firstNews : Element :=
  ⟨⟨"item".toList, []⟩, .element ⟨"title".toList, []⟩ (.text "A &amp;".toList
    (.element ⟨"b".toList, []⟩ (.text "B".toList .nil) .nil)) .nil⟩

/-- The second entry of it. -/
def secondNews : Element :=
  ⟨⟨"a:item".toList, []⟩, .element ⟨"author".toList, []⟩
    (.element ⟨"name".toList, []⟩ (.text "C".toList .nil) .nil) .nil⟩

/-- The tree of it. -/
def newsTree : Content :=
  .element ⟨"rss".toList, []⟩
    (.element ⟨"title".toList, []⟩ (.text "News".toList .nil)
      (.single ⟨"item".toList, []⟩ (.element firstNews.tag firstNews.inside
        (.text ",".toList (.element secondNews.tag secondNews.inside .nil))))) .nil

theorem entryElements_newsTree : entryElements newsTree = [firstNews, secondNews] :=
  rfl

set_option maxRecDepth 1500 in
theorem isFeed_newsTree : IsFeed newsText.toList newsTree where
  read_eq := by
    have hevents : (Xml.read newsText.toList).events = newsTree.events := by decide +kernel
    have hsound : (Xml.read newsText.toList).sound = true := by decide +kernel
    calc
      Xml.read newsText.toList =
          ⟨(Xml.read newsText.toList).events, (Xml.read newsText.toList).sound⟩ := rfl
      _ = ⟨newsTree.events, true⟩ := by rw [hevents, hsound]
  isRoot := ⟨⟨"rss".toList, []⟩, rfl, by decide⟩
  apart := by
    rw [EntriesApart, entryElements_newsTree]
    exact List.forall_mem_cons.mpr ⟨rfl, List.forall_mem_singleton.mpr rfl⟩

/-- Its two entries are those of its items alone. -/
theorem entriesOf_isFeed_news :
    IsFeed newsText.toList newsTree ∧ ∃ first second,
      entriesOf (Xml.read newsText.toList) = .ok [first, second] ∧
      (∀ doc, IsAlone firstNews doc → entriesOf (Xml.read doc) = .ok [first]) ∧
      (∀ doc, IsAlone secondNews doc → entriesOf (Xml.read doc) = .ok [second]) := by
  obtain ⟨entries, hentries, hall⟩ := entriesOf_isFeed isFeed_newsTree
  rw [entryElements_newsTree] at hall
  obtain ⟨first, rest, hfirst, hrest, rfl⟩ := List.forall₂_cons_left_iff.mp hall
  obtain ⟨second, rest, hsecond, hnil, rfl⟩ := List.forall₂_cons_left_iff.mp hrest
  obtain rfl := List.forall₂_nil_left_iff.mp hnil
  exact ⟨isFeed_newsTree, first, second, hentries, hfirst.2, hsecond.2⟩

end Metasearch.Answer
