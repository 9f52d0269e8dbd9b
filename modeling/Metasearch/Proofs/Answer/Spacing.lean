import Metasearch.Proofs.Answer.Prose
import Metasearch.Proofs.Xml.CharacterData

/-!
# White space in the text of an entry

The text of an element directly within an entry may be cut into texts, sections and comments. Texts
lose the white space at their ends, and what is left of all parts goes into the field without
anything in between. So nothing but white space is lost, and the words of the element are those of
the field unless two of them were apart by white space at the ends of texts alone.

## Main definitions

* `Site`: a place for an element directly within an entry of a feed.
* `Site.Writes`: a document with character data in that place.

## Main results

* `Site.entriesOf_eq`: the entry of such a document.
* `entriesOf_words`: when the words of the element are those of the field.
-/

namespace Metasearch.Answer

open Metasearch.Text Metasearch.Xml

variable {c d : Content} {e : Element} {p : Prose} {s : List Char} {chunks : List Chunk}

/-! ### Character data as a tree -/

theorem children_append (c d : Content) : (c ++ d).children = c.children ++ d.children := by
  rw [Content.append_def]
  induction c with
  | nil => rfl
  | element tag inside rest _ ih => exact congrArg _ ih
  | single tag rest ih => exact congrArg _ ih
  | text raw rest ih => exact ih
  | verbatim raw rest ih => exact ih

theorem children_ofChunks (chunks : List Chunk) : (Content.ofChunks chunks).children = [] := by
  fun_induction Content.ofChunks chunks with
  | case1 => rfl
  | case2 _ _ _ ih | case5 _ _ ih => exact ih
  | case3 _ _ _ ih | case4 _ _ ih => exact ih

/-- The text of an element of character data is what is read of its parts. -/
theorem ownText_ofChunks (chunks : List Chunk) :
    (Content.ofChunks chunks).ownText = chunks.flatMap Chunk.kept := by
  fun_induction Content.ofChunks chunks with
  | case1 => rfl
  | case2 raw rest hblank ih =>
    have htrim : trimWhere Xml.isSpace raw = [] := by
      rw [trimWhere, List.dropWhile_eq_nil_iff.mpr (List.all_eq_true.mp hblank)]
      rfl
    rw [List.flatMap_cons, ih, Chunk.kept, htrim]
    rfl
  | case3 raw rest _ ih => exact congrArg _ ih
  | case4 raw rest ih => exact congrArg _ ih
  | case5 raw rest ih => exact ih

theorem Prose.isEntryName_of_contains {name : List Char}
    (h : p.names.contains (String.ofList name) = true) : isEntryName name = false := by
  rw [Bool.eq_false_iff]
  intro hname
  rw [isEntryName, Bool.or_eq_true, beq_iff_eq, beq_iff_eq] at hname
  rcases hname with rfl | rfl <;> cases p <;> exact absurd h (by decide)

/-! ### Places in an entry -/

/-- A place for an element directly within an entry of a feed. -/
structure Site where
  /-- What is read in front of the entry. -/
  before : List Event
  /-- How the entry starts. -/
  tag : Tag
  /-- What stands in the entry in front of the element. -/
  front : Content
  /-- How the element starts. -/
  child : Tag
  /-- What stands in the entry behind the element. -/
  back : Content
  /-- What is read behind the entry. -/
  after : List Event

namespace Site

variable {z : Site}

/-- The element of the entry, with character data in the place. -/
def entry (z : Site) (chunks : List Chunk) : Element :=
  ⟨z.tag, z.front ++ .element z.child (.ofChunks chunks) z.back⟩

/-- All that is read, with character data in the place. -/
def events (z : Site) (chunks : List Chunk) : List Event :=
  z.before ++ ((z.entry chunks).alone.events ++ z.after)

/-- Holds of a place in an entry of a feed. -/
structure IsSound (z : Site) : Prop where
  /-- The feed has begun before the entry. -/
  begins : ∃ f, FeedState.Leads .start z.before f ∧ f.root.isSome = true
  /-- No element around the entry ends before it is the innermost. -/
  balanced : ∃ final, (z.before ++ z.after).foldlM Event.after [] = some final
  /-- The entry is one. -/
  isEntryName : isEntryName z.tag.localName = true
  /-- It starts no other entry. -/
  free : entryElements z.front = [] ∧ entryElements z.back = []

/-- Holds of documents with character data in the place. The tags of the element, and what stands
before and behind it, may be written in any way. A byte order mark in front does not count. -/
def Writes (z : Site) (chunks : List Chunk) (s : List Char) : Prop :=
  AreWritten chunks ∧ ∃ pre opening closing post,
    Spells pre (z.before ++ .start z.tag :: z.front.events) ∧
    IsPiece opening (some (.start z.child)) ∧ IsPiece closing (some (.finish z.child.name)) ∧
    Spells post (z.back.events ++ .finish z.tag.name :: z.after) ∧
    let t := pre ++ (opening ++ (chunks.flatMap Chunk.text ++ (closing ++ post)))
    s = '\uFEFF' :: t ∨ s = t ∧ t.head? ≠ some '\uFEFF'

theorem spells_of_writes {t pre opening closing post : List Char} (hchunks : AreWritten chunks)
    (hpre : Spells pre (z.before ++ .start z.tag :: z.front.events))
    (hopening : IsPiece opening (some (.start z.child)))
    (hclosing : IsPiece closing (some (.finish z.child.name)))
    (hpost : Spells post (z.back.events ++ .finish z.tag.name :: z.after))
    (ht : t = pre ++ (opening ++ (chunks.flatMap Chunk.text ++ (closing ++ post)))) :
    Spells t (z.events chunks) := by
  have hfinish : Spells (closing ++ post)
      (.finish z.child.name :: (z.back.events ++ .finish z.tag.name :: z.after)) :=
    .piece hclosing (fits_of_ne_text (by simp) _) hpost
  have hdata := (spells_chunks hchunks).append hfinish fun c hc => by
    rw [List.head?_append, hclosing.head?_of_finish] at hc
    exact (Option.some.inj hc).symm
  have hstart : Spells (opening ++ (chunks.flatMap Chunk.text ++ (closing ++ post)))
      (.start z.child :: _) := .piece hopening (fits_of_ne_text (by simp) _) hdata
  have hall := hpre.append hstart fun c hc => by
    rw [List.head?_append, hopening.head?_of_start] at hc
    exact (Option.some.inj hc).symm
  rw [ht]
  simpa [events, entry, Element.alone, Content.events] using hall

theorem IsSound.exists_after (hz : z.IsSound) (chunks : List Chunk) :
    ∃ final, (z.events chunks).foldlM Event.after [] = some final := by
  obtain ⟨final, hfinal⟩ := hz.balanced
  rw [List.foldlM_append] at hfinal
  obtain ⟨mid, hmid, hfinal⟩ := Option.bind_eq_some_iff.mp hfinal
  refine ⟨final, ?_⟩
  rw [events, List.foldlM_append, hmid, Option.bind_eq_bind, Option.bind_some,
    List.foldlM_append, Content.after_events, Option.bind_eq_bind, Option.bind_some]
  exact hfinal

/-- **The entry of a document with character data in the place.** -/
theorem entriesOf_eq (hz : z.IsSound) (hs : z.Writes chunks s)
    (hchild : isEntryName z.child.localName = false) : ∃ earlier later,
      entriesOf (Xml.read s) = .ok (earlier ++ Entry.ofElement (z.entry chunks) :: later) := by
  obtain ⟨hchunks, pre, opening, closing, post, hpre, hopening, hclosing, hpost, hmark⟩ := hs
  obtain ⟨final, hfinal⟩ := hz.exists_after chunks
  have hspells := spells_of_writes hchunks hpre hopening hclosing hpost rfl
  rw [read_of_spells_or hspells hmark hfinal]
  obtain ⟨f, hbegins, hroot⟩ := hz.begins
  obtain ⟨earlier, later, haround⟩ :=
    exists_entriesOf_around hbegins hroot hz.isEntryName z.after
  refine ⟨earlier, later, haround _ ?_⟩
  obtain ⟨hfront, hback⟩ := hz.free
  rw [entryElements] at hfront hback ⊢
  rw [Content.elements_append, List.filter_append, hfront, List.nil_append, Content.elements,
    elements_ofChunks, List.nil_append, List.filter_cons, isEntry, hchild, hback]
  rfl

end Site

/-- **What becomes of the words in an entry.** An element of character data, with any name that a
field is for, gives the field its text less the white space at the ends of its texts. Nothing but
white space is lost. The words are those of the element just when no word goes on in the field, from
one part to the next, that does not do so in the element. -/
theorem entriesOf_words {z : Site} (hz : z.IsSound) (hs : z.Writes chunks s)
    (hchild : p.names.contains (String.ofList z.child.localName) = true) :
    ∃ earlier x later, entriesOf (Xml.read s) = .ok (earlier ++ x :: later) ∧
      x = Entry.ofElement (z.entry chunks) ∧
      (∃ front back, p.of x = front ++ (chunks.flatMap Chunk.kept ++ back)) ∧
      ((chunks.flatMap Chunk.kept).filter fun c => !Text.isSpace c) =
        (chunks.flatMap Chunk.data).filter (fun c => !Text.isSpace c) ∧
      (words (chunks.flatMap Chunk.kept) = words (chunks.flatMap Chunk.data) ↔
        ∀ done left, chunks = done ++ left →
          IsJoined (done.flatMap Chunk.kept) (left.flatMap Chunk.kept) →
            IsJoined (done.flatMap Chunk.data) (left.flatMap Chunk.data)) := by
  obtain ⟨earlier, later, hentries⟩ :=
    Site.entriesOf_eq hz hs (Prose.isEntryName_of_contains hchild)
  refine ⟨earlier, _, later, hentries, rfl, ?_, ?_, ?_⟩
  · have hentry : isEntry (z.entry chunks) = true := hz.isEntryName
    have htext : p.textIn (z.entry chunks) ⟨z.child, .ofChunks chunks⟩ =
        chunks.flatMap Chunk.kept := by
      rw [Prose.textIn_of_children_eq_nil hentry (children_ofChunks chunks), if_pos hchild,
        ownText_ofChunks]
    refine ⟨z.front.children.flatMap (p.textIn (z.entry chunks)),
      z.back.children.flatMap (p.textIn (z.entry chunks)), ?_⟩
    rw [p.of_ofElement hentry, Site.entry, children_append, List.flatMap_append]
    exact congrArg _ (congrArg (· ++ _) htext)
  · rw [List.filter_flatMap, List.filter_flatMap]
    exact List.flatMap_congr fun k _ => k.sheds.filter_eq.symm
  · exact words_flatMap_eq_iff fun k _ => k.sheds

/-- The title of the only item of a feed. -/
def titleSite : Site where
  before := [.start ⟨"rss".toList, []⟩]
  tag := ⟨"item".toList, []⟩
  front := .nil
  child := ⟨"title".toList, []⟩
  back := .nil
  after := [.finish "rss".toList]

/-- The feed with a title as it is written. -/
def titledFeed (title : List Char) : List Char :=
  "<rss><item><title>".toList ++ (title ++ "</title></item></rss>".toList)

theorem isSound_titleSite : titleSite.IsSound where
  begins := ⟨⟨some "rss".toList, ["rss".toList], none, []⟩, rfl, rfl⟩
  balanced := ⟨[], rfl⟩
  isEntryName := by decide
  free := ⟨rfl, rfl⟩

theorem writes_titledFeed (h : AreWritten chunks) :
    titleSite.Writes chunks (titledFeed (chunks.flatMap Chunk.text)) := by
  have hstart (name : List Char) (hne : name ≠ []) (hname : name.all Char.isAlpha = true) :
      IsPiece _ (some (.start ⟨name, []⟩)) := isPiece_startTag name hne hname
  have hpre : Spells "<rss><item>".toList
      [.start ⟨"rss".toList, []⟩, .start ⟨"item".toList, []⟩] :=
    .piece (hstart "rss".toList (by simp) (by decide)) (fits_of_ne_text (by simp) _)
      (.piece (hstart "item".toList (by simp) (by decide)) (fits_of_ne_text (by simp) _) .nil)
  have hpost : Spells "</item></rss>".toList
      [.finish "item".toList, .finish "rss".toList] :=
    .piece (isPiece_finishTag "item".toList (by decide)) (fits_of_ne_text (by simp) _)
      (.piece (isPiece_finishTag "rss".toList (by decide)) (fits_of_ne_text (by simp) _) .nil)
  refine ⟨h, "<rss><item>".toList, "<title>".toList, "</title>".toList, "</item></rss>".toList,
    hpre, hstart "title".toList (by simp) (by decide),
    isPiece_finishTag "title".toList (by decide), hpost, Or.inr ⟨?_, ?_⟩⟩
  · rfl
  · exact fun hmark => absurd (Option.some.inj hmark) (by decide)

/-- Words around a section that has the white space between them, and around a comment in a text
that has it. -/
theorem entriesOf_words_big :
    let chunks : List Chunk := [.run "A".toList, .verbatim " big\n".toList, .run "day ".toList,
      .comment "out".toList, .verbatim " off".toList]
    titleSite.IsSound ∧ titleSite.Writes chunks
      (titledFeed "A<![CDATA[ big\n]]>day <!--out--><![CDATA[ off]]>".toList) ∧
    ∃ earlier x later, entriesOf (Xml.read (titledFeed
        "A<![CDATA[ big\n]]>day <!--out--><![CDATA[ off]]>".toList)) =
        .ok (earlier ++ x :: later) ∧
      x = Entry.ofElement (titleSite.entry chunks) ∧
      (∃ front back, x.title = front ++ ("A big\nday off".toList ++ back)) ∧
      ∀ done left, chunks = done ++ left →
        IsJoined (done.flatMap Chunk.kept) (left.flatMap Chunk.kept) →
          IsJoined (done.flatMap Chunk.data) (left.flatMap Chunk.data) := by
  intro chunks
  have hwritten : AreWritten chunks := ⟨by decide +kernel, by decide⟩
  have hwrites := writes_titledFeed hwritten
  obtain ⟨earlier, x, later, hentries, hx, hfield, -, hwords⟩ :=
    entriesOf_words (p := .title) isSound_titleSite hwrites (by decide)
  exact ⟨isSound_titleSite, hwrites, earlier, x, later, hentries, hx, hfield,
    hwords.mp (by decide)⟩

/-- Words around a section where the text before it has the white space between them. -/
theorem entriesOf_joined :
    let chunks : List Chunk := [.run "Hello ".toList, .verbatim "World".toList]
    let titles (s : List Char) : Option (List (List Char)) :=
      (entriesOf (Xml.read s)).toOption.map fun entries => entries.map Entry.title
    words (chunks.flatMap Chunk.data) = ["Hello".toList, "World".toList] ∧
      titles (titledFeed (chunks.flatMap Chunk.text)) = some ["HelloWorld".toList] :=
  ⟨by decide +kernel, by decide +kernel⟩

end Metasearch.Answer
