import Metasearch.Proofs.Answer.Foreign
import Metasearch.Proofs.Settings
import Metasearch.Proofs.Xml.Open

/-!
# The entries of any feed

A feed may have entries within entries, and it may end within elements. An entry within another one
ends it: the outer one is dropped. What is left is that every entry is the one of an element of the
feed, which starts no other entry.

## Main definitions

* `innermostEntries`: the entries of a tree that start no other one.

## Main results

* `FeedState.leads_tree`: the reading of any tree.
* `exists_element_of_entriesOf`: every entry of a feed is that of an element.
-/

namespace Metasearch.Answer

open Metasearch.Text Metasearch.Xml

variable {c : Content} {x : Entry} {s root : List Char} {path : List (List Char)}
  {current : Option Entry} {entries : List Entry} {es : List Event} {f : FeedState}
  {final : List (List Char)}

/-- The entries of a tree that start no other one. -/
def innermostEntries (c : Content) : List Element :=
  (entryElements c).filter fun e => (entryElements e.inside).isEmpty

theorem mem_innermostEntries_iff {e : Element} : e ∈ innermostEntries c ↔
    e ∈ c.elements ∧ isEntry e = true ∧ entryElements e.inside = [] := by
  rw [innermostEntries, List.mem_filter, entryElements, List.mem_filter, List.isEmpty_iff,
    and_assoc]

theorem innermostEntries_element {tag : Tag} (h : isEntryName tag.localName = true)
    (inside rest : Content) : innermostEntries (.element tag inside rest) =
      innermostEntries (.element tag inside .nil) ++ innermostEntries rest := by
  have hrest : entryElements (.element tag inside rest) =
      entryElements (.element tag inside .nil) ++ entryElements rest := by
    rw [entryElements_of_isEntryName h, entryElements_of_isEntryName h]
    exact congrArg _ (congrArg (· ++ _) (List.append_nil _).symm)
  rw [innermostEntries, hrest, List.filter_append]
  rfl

theorem innermostEntries_eq_nil (h : entryElements c = []) : innermostEntries c = [] := by
  rw [innermostEntries, h]
  rfl

namespace FeedState

/-- What becomes of the entry that is being read, when a tree is read within elements: it is dropped
when another one starts. -/
def afterTree (path : List (List Char)) (c : Content) (current : Option Entry) : Option Entry :=
  if (entryElements c).isEmpty then current.map fun e => e.withContent path c else none

theorem afterTree_of_eq_nil (h : entryElements c = []) :
    afterTree path c current = current.map fun e => e.withContent path c := by
  rw [afterTree, h, List.isEmpty_nil, if_pos rfl]

theorem afterTree_of_ne_nil (h : entryElements c ≠ []) : afterTree path c current = none := by
  rw [afterTree, List.isEmpty_eq_false_iff.mpr h, if_neg Bool.false_ne_true]

theorem afterTree_none (path : List (List Char)) (c : Content) : afterTree path c none = none := by
  rw [afterTree, Option.map_none, ite_self]

/-- An event that starts no element, and a tree behind it. -/
theorem afterTree_map {d : Content} (g : Entry → Entry)
    (hentries : entryElements c = entryElements d)
    (hcontent : ∀ e : Entry, e.withContent path c = (g e).withContent path d) :
    afterTree path c current = afterTree path d (current.map g) := by
  rw [afterTree, afterTree, hentries, Option.map_map, funext hcontent]
  rfl

theorem afterTree_element {tag : Tag} (h : isEntryName tag.localName = false)
    (inside rest : Content) : afterTree path (.element tag inside rest) current =
      afterTree path rest (afterTree (tag.localName :: path) inside
        (current.map fun e => e.withTag path tag)) := by
  by_cases hall : entryElements (.element tag inside rest) = []
  · obtain ⟨-, hinside, hrest⟩ := entryElements_element_eq_nil_iff.mp hall
    rw [afterTree_of_eq_nil hall, afterTree_of_eq_nil hrest, afterTree_of_eq_nil hinside,
      Option.map_map, Option.map_map]
    rfl
  · rw [afterTree_of_ne_nil hall]
    by_cases hrest : entryElements rest = []
    · have hinside : entryElements inside ≠ [] := fun hinside =>
        hall (entryElements_element_eq_nil_iff.mpr ⟨h, hinside, hrest⟩)
      rw [afterTree_of_ne_nil hinside, afterTree_none]
    · rw [afterTree_of_ne_nil hrest]

theorem next_finish_isEntryName {tag : Tag} (h : isEntryName tag.localName = true)
    (name : List Char) : next ⟨some root, name :: path, current, entries⟩ (.finish tag.name) =
      .ok ⟨some root, path, none, current.toList ++ entries⟩ := by
  rw [Tag.localName] at h
  simp only [next, leave, h, if_true, List.tail_cons]

/-- The entry of an element is complete at its end, if it starts no other one. -/
theorem toList_afterTree {tag : Tag} (h : isEntryName tag.localName = true) (inside : Content) :
    (afterTree (tag.localName :: path) inside (some .empty)).toList ++
        ((innermostEntries inside).map Entry.ofElement).reverse =
      ((innermostEntries (.element tag inside .nil)).map Entry.ofElement).reverse := by
  have hall : innermostEntries (.element tag inside .nil) =
      (if (entryElements inside).isEmpty then [⟨tag, inside⟩] else []) ++
        innermostEntries inside := by
    rw [innermostEntries, entryElements_of_isEntryName h, List.filter_cons]
    split_ifs <;> simp [innermostEntries, entryElements, Content.elements]
  rw [hall]
  by_cases hinside : entryElements inside = []
  · have hentry : Entry.empty.withContent (tag.localName :: path) inside =
        Entry.ofElement ⟨tag, inside⟩ :=
      @Entry.withContent_congr inside Entry.empty tag.localName [] path [] h
    rw [afterTree_of_eq_nil hinside, innermostEntries_eq_nil hinside, hinside, Option.map_some,
      hentry]
    rfl
  · rw [afterTree_of_ne_nil hinside, List.isEmpty_eq_false_iff.mpr hinside]
    rfl

/-- **A tree adds the entries that start no other one.** -/
theorem leads_tree (root : List Char) (path : List (List Char)) (c : Content)
    (current : Option Entry) (entries : List Entry) :
    Leads ⟨some root, path, current, entries⟩ c.events ⟨some root, path,
      afterTree path c current,
      ((innermostEntries c).map Entry.ofElement).reverse ++ entries⟩ := by
  induction c generalizing path current entries with
  | nil =>
    rw [afterTree_of_eq_nil rfl, show (fun e : Entry => e.withContent path .nil) = id from rfl,
      Option.map_id]
    rfl
  | element tag inside rest ihInside ihRest =>
    cases htag : isEntryName tag.localName with
    | true =>
      have hrest := ihRest path none
        (((innermostEntries (.element tag inside .nil)).map Entry.ofElement).reverse ++ entries)
      rw [← toList_afterTree htag, List.append_assoc, afterTree_none] at hrest
      rw [afterTree_of_ne_nil (by simp [entryElements_of_isEntryName htag]),
        innermostEntries_element htag, List.map_append, List.reverse_append, List.append_assoc,
        ← toList_afterTree htag, List.append_assoc]
      exact .cons (next_start_entry htag)
        ((ihInside _ _ entries).append (.cons (next_finish_isEntryName htag _) hrest))
    | false =>
      have hrest := ihRest path (afterTree (tag.localName :: path) inside
        (current.map fun e => e.withTag path tag))
        (((innermostEntries inside).map Entry.ofElement).reverse ++ entries)
      have hentries : innermostEntries (.element tag inside rest) =
          innermostEntries inside ++ innermostEntries rest := by
        rw [innermostEntries, entryElements_of_not_isEntryName htag, List.filter_append]
        rfl
      rw [afterTree_element htag, hentries, List.map_append, List.reverse_append,
        List.append_assoc]
      exact .cons (next_start htag)
        ((ihInside _ _ entries).append (.cons (next_finish htag) hrest))
  | single tag rest ih =>
    rw [afterTree_map (c := .single tag rest) (d := rest) (fun e => e.withTag path tag) rfl
      fun _ => rfl]
    exact .cons next_single (ih path _ entries)
  | text raw rest ih =>
    rw [afterTree_map (c := .text raw rest) (d := rest)
      (fun e => e.withText path ((unescape? raw).getD raw)) rfl fun _ => rfl]
    exact .cons rfl (ih path _ entries)
  | verbatim raw rest ih =>
    rw [afterTree_map (c := .verbatim raw rest) (d := rest) (fun e => e.withText path raw) rfl
      fun _ => rfl]
    exact .cons rfl (ih path _ entries)

/-- Trees in elements that are still open add their entries one after the other. -/
theorem exists_leads_layers (root : List Char) (layers : List (Content × Tag))
    (path : List (List Char)) (current : Option Entry) (entries : List Entry) :
    ∃ path' current', Leads ⟨some root, path, current, entries⟩ (layerEvents layers)
      ⟨some root, path', current', ((layers.flatMap fun layer =>
        innermostEntries layer.1).map Entry.ofElement).reverse ++ entries⟩ := by
  induction layers generalizing path current entries with
  | nil => exact ⟨path, current, rfl⟩
  | cons layer layers ih =>
    obtain ⟨c, tag⟩ := layer
    have hstart : ∃ path' current', ∀ entries,
        next ⟨some root, path, afterTree path c current, entries⟩ (.start tag) =
          .ok ⟨some root, path', current', entries⟩ := by
      cases htag : isEntryName tag.localName with
      | true => exact ⟨_, _, fun _ => next_start_entry htag⟩
      | false => exact ⟨_, _, fun _ => next_start htag⟩
    obtain ⟨path', current', hstart⟩ := hstart
    obtain ⟨path'', current'', hrest⟩ := ih path' current'
      (((innermostEntries c).map Entry.ofElement).reverse ++ entries)
    refine ⟨path'', current'', ?_⟩
    rw [List.flatMap_cons, List.map_append, List.reverse_append, List.append_assoc]
    rw [show layerEvents ((c, tag) :: layers) = c.events ++ .start tag :: layerEvents layers by
      simp [layerEvents]]
    exact (leads_tree root path c current entries).append (.cons (hstart _) hrest)

/-- The outermost element is read as one that is no entry. -/
theorem exists_leads_of_start (h : Leads .start es f) (hroot : f.root.isSome = true)
    (hfinal : es.foldlM Event.after [] = some final) :
    ∃ root path, Leads ⟨some root, path, none, []⟩ es f := by
  have henter {t : Tag} {f' : FeedState} (h : enter start t = .ok f') :
      isEntryName t.localName = false ∧ f' = ⟨some t.localName, [t.localName], none, []⟩ := by
    rw [enter] at h
    split at h
    · exact ⟨isEntryName_of_isRoot ‹_›, (Except.ok.inj h).symm⟩
    · cases h
  induction es with
  | nil =>
    obtain rfl := Except.ok.inj h
    cases hroot
  | cons e es ih =>
    rw [Leads, List.foldlM_cons, bind_eq_ok_iff] at h
    obtain ⟨f', hnext, hrest⟩ := h
    cases e with
    | start t =>
      obtain ⟨hname, rfl⟩ := henter hnext
      exact ⟨t.localName, [], .cons (next_start hname) hrest⟩
    | single t =>
      obtain ⟨-, rfl⟩ := henter hnext
      exact ⟨t.localName, [t.localName], .cons next_single hrest⟩
    | finish name => cases hfinal
    | text raw | verbatim raw =>
      -- text in front of the outermost element says nothing
      obtain rfl := Except.ok.inj hnext
      obtain ⟨root, path, hleads⟩ := ih hrest hfinal
      exact ⟨root, path, .cons rfl hleads⟩

end FeedState

theorem exists_leads_of_entriesOf (h : entriesOf (Xml.read s) = .ok entries) :
    (Xml.read s).sound = true ∧ ∃ f, FeedState.Leads .start (Xml.read s).events f ∧
      f.root.isSome = true ∧ entries = f.entries.reverse := by
  rw [entriesOf, bind_eq_ok_iff] at h
  obtain ⟨f, hleads, h⟩ := h
  cases hsound : (Xml.read s).sound with
  | false =>
    rw [hsound] at h
    cases h
  | true =>
    rw [hsound] at h
    obtain ⟨root, path, current, done⟩ := f
    cases root with
    | none => cases h
    | some root => exact ⟨rfl, _, hleads, rfl, (Except.ok.inj h).symm⟩

/-- **Every entry of a feed is that of an element of it.** The element starts no other entry. -/
theorem exists_element_of_entriesOf (h : entriesOf (Xml.read s) = .ok entries) (hx : x ∈ entries) :
    ∃ e : Element, isEntry e = true ∧ entryElements e.inside = [] ∧
      e.alone.events <:+: (Xml.read s).events ∧ x = Entry.ofElement e := by
  obtain ⟨hsound, f, hleads, hroot, rfl⟩ := exists_leads_of_entriesOf h
  have hread : Xml.read s = ⟨(Xml.read s).events, true⟩ := by rw [← hsound]
  obtain ⟨final, hfinal⟩ := exists_after_of_read hread
  obtain ⟨root, path, hleads⟩ := FeedState.exists_leads_of_start hleads hroot hfinal
  obtain ⟨layers, c, hevents, -⟩ := exists_layers hfinal
  -- the entries are those of the trees that the events go through
  obtain ⟨path', current', hlayers⟩ := FeedState.exists_leads_layers root layers path none []
  have hall := hlayers.append (FeedState.leads_tree root path' c current' _)
  rw [hevents] at hleads ⊢
  obtain rfl := Except.ok.inj (hleads.symm.trans hall)
  obtain ⟨e, d, hx, hd, he⟩ : ∃ e d, x = Entry.ofElement e ∧
      d.events <:+: layerEvents layers ++ c.events ∧ e ∈ innermostEntries d := by
    simp only [List.append_nil, List.mem_reverse, List.mem_append, List.mem_map,
      List.mem_flatMap] at hx
    rcases hx with ⟨e, he, rfl⟩ | ⟨e, ⟨layer, hlayer, he⟩, rfl⟩
    · exact ⟨e, c, rfl, (List.suffix_append _ _).isInfix, he⟩
    · exact ⟨e, layer.1, rfl, (events_infix_layerEvents hlayer).trans
        (List.prefix_append _ _).isInfix, he⟩
  obtain ⟨hmem, hentry, hinside⟩ := mem_innermostEntries_iff.mp he
  exact ⟨e, hentry, hinside, (Content.events_infix_of_mem hmem).trans hd, hx⟩

end Metasearch.Answer
