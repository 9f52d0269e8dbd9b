import Metasearch.Proofs.Xml.Reader

/-!
# Documents that end within elements

Elements that are open at the end of a document are let pass. What has been read of such a document
is no walk through one tree. It is a walk through the trees that stand side by side: one in each
element that is still open, up to the start of the next, and one in the innermost.

## Main definitions

* `Content.append`: one tree after another.
* `layerEvents`: the walk through the trees of the elements that are still open.

## Main results

* `exists_layers`: events are those of such trees, if no element ends before it is the innermost.
* `exists_after_of_read`: the events of a document that is read to its end are of that kind.
-/

namespace Metasearch.Xml

open Metasearch.Text

variable {opened final : List (List Char)} {es : List Event} {s : List Char}

/-! ### One tree after another -/

namespace Content

/-- One tree after another. -/
def append : Content → Content → Content
  | nil, d => d
  | element tag inside rest, d => element tag inside (rest.append d)
  | single tag rest, d => single tag (rest.append d)
  | text raw rest, d => text raw (rest.append d)
  | verbatim raw rest, d => verbatim raw (rest.append d)

instance : Append Content := ⟨append⟩

theorem append_def (c d : Content) : c ++ d = c.append d := rfl

/-- The walk through one tree after another. -/
@[simp]
theorem events_append (c d : Content) : (c ++ d).events = c.events ++ d.events := by
  rw [append_def]
  induction c with
  | nil => rfl
  | element tag inside rest _ ih => simp [append, events, ih]
  | single tag rest ih => simp [append, events, ih]
  | text raw rest ih => simp [append, events, ih]
  | verbatim raw rest ih => simp [append, events, ih]

@[simp]
theorem elements_append (c d : Content) : (c ++ d).elements = c.elements ++ d.elements := by
  rw [append_def]
  induction c with
  | nil => rfl
  | element tag inside rest _ ih => simp [append, elements, ih]
  | single tag rest ih => exact ih
  | text raw rest ih => exact ih
  | verbatim raw rest ih => exact ih

end Content

/-! ### Elements that are still open -/

/-- The walk through the trees in elements that are still open, from the outermost on. Each tree
stands in front of the start of the next element. -/
def layerEvents (layers : List (Content × Tag)) : List Event :=
  layers.flatMap fun layer => layer.1.events ++ [.start layer.2]

theorem layerEvents_append_singleton (layers : List (Content × Tag)) (c : Content) (tag : Tag) :
    layerEvents (layers ++ [(c, tag)]) = layerEvents layers ++ (c.events ++ [.start tag]) := by
  simp [layerEvents]

theorem events_infix_layerEvents {layers : List (Content × Tag)} {layer : Content × Tag}
    (h : layer ∈ layers) : layer.1.events <:+: layerEvents layers := by
  obtain ⟨before, after, rfl⟩ := List.append_of_mem h
  exact ⟨layerEvents before, .start layer.2 :: layerEvents after, by simp [layerEvents]⟩

/-- **Events are those of trees in the elements that are still open**, and of one more in the
innermost, if no element ends before it is the innermost. -/
theorem exists_layers (h : es.foldlM Event.after [] = some final) :
    ∃ (layers : List (Content × Tag)) (c : Content), es = layerEvents layers ++ c.events ∧
      final = (layers.map fun layer => layer.2.name).reverse := by
  induction es using List.reverseRecOn generalizing final with
  | nil => exact ⟨[], .nil, rfl, (Option.some.inj h).symm⟩
  | append_singleton es e ih =>
    rw [List.foldlM_append] at h
    obtain ⟨mid, hmid, hlast⟩ := Option.bind_eq_some_iff.mp h
    obtain ⟨layers, c, rfl, hlayers⟩ := ih hmid
    simp only [List.foldlM_cons, List.foldlM_nil, bind_pure] at hlast
    -- an event after which the same elements are open goes to the end of the innermost tree
    have hsame (d : Content) (hd : d.events = [e]) (hfinal : mid = final) :
        ∃ (layers' : List (Content × Tag)) (c' : Content),
          layerEvents layers ++ c.events ++ [e] = layerEvents layers' ++ c'.events ∧
            final = (layers'.map fun layer => layer.2.name).reverse :=
      ⟨layers, c ++ d, by rw [Content.events_append, hd, List.append_assoc], hfinal ▸ hlayers⟩
    cases e with
    | start tag =>
      refine ⟨layers ++ [(c, tag)], .nil, ?_, ?_⟩
      · rw [layerEvents_append_singleton]
        simp [Content.events]
      · rw [← Option.some.inj hlast, hlayers]
        simp
    | single tag => exact hsame (.single tag .nil) rfl (Option.some.inj hlast)
    | finish name =>
      -- the innermost element gets its tree, and goes to the end of the tree around it
      rw [Event.after_finish_eq_some_iff] at hlast
      rw [hlast] at hlayers
      obtain ⟨outer, ⟨d, tag⟩, rfl⟩ : ∃ outer layer, layers = outer ++ [layer] := by
        rcases List.eq_nil_or_concat layers with rfl | ⟨outer, layer, rfl⟩
        · cases hlayers
        · exact ⟨outer, layer, List.concat_eq_append⟩
      rw [List.map_append, List.reverse_append] at hlayers
      obtain ⟨rfl, rfl⟩ := List.cons.inj hlayers
      refine ⟨outer, d ++ .element tag c .nil, ?_, rfl⟩
      rw [layerEvents_append_singleton, Content.events_append]
      simp [Content.events]
    | text raw => exact hsame (.text raw .nil) rfl (Option.some.inj hlast)
    | verbatim raw => exact hsame (.verbatim raw .nil) rfl (Option.some.inj hlast)

/-- No element of a document that is read to its end ends before it is the innermost. -/
theorem exists_after_of_read (h : read s = ⟨es, true⟩) :
    ∃ final, es.foldlM Event.after [] = some final := by
  rw [read.eq_def] at h
  split at h
  · exact (spells_of_readFrom (Nat.lt_succ_self _) h).2
  · exact (spells_of_readFrom (Nat.lt_succ_self _) h).2

/-- What the pieces of a document say is read, with a byte order mark in front or without one. -/
theorem read_of_spells_or {t : List Char} (hs : Spells t es)
    (hmark : s = '\uFEFF' :: t ∨ s = t ∧ t.head? ≠ some '\uFEFF')
    (hfinal : es.foldlM Event.after [] = some final) : read s = ⟨es, true⟩ := by
  rcases hmark with rfl | ⟨rfl, hhead⟩
  · exact readFrom_of_spells hs (Nat.lt_succ_self _) hfinal
  · exact read_of_spells hs hhead hfinal

/-! ### Pieces that are tags -/

variable {p : List Char} {tag : Tag}

theorem IsPiece.head?_of_start (h : IsPiece p (some (.start tag))) : p.head? = some '<' := by
  obtain ⟨c, r, rfl, -⟩ := h.exists_cons
  by_contra hc
  have htakes := h.takes [] _ [] rfl (fits_of_ne_text (by simp) [])
  rw [List.append_nil, next.eq_2 [] _ fun r' heq => hc (by rw [heq]; rfl)] at htakes
  cases htakes

theorem IsPiece.head?_of_finish {name : List Char} (h : IsPiece p (some (.finish name))) :
    p.head? = some '<' := by
  obtain ⟨c, r, rfl, -⟩ := h.exists_cons
  by_contra hc
  have htakes := h.takes [name] [] [] (Event.after_finish_eq_some_iff.mpr rfl)
    (fits_of_ne_text (by simp) [])
  rw [List.append_nil, next.eq_2 [name] _ fun r' heq => hc (by rw [heq]; rfl)] at htakes
  cases htakes

theorem splitTag?_of_isAlpha {name : List Char} (h : ∀ c ∈ name, c.isAlpha = true)
    (t : List Char) : splitTag? none (name ++ '>' :: t) = some (name, t) := by
  induction name with
  | nil => rfl
  | cons c name ih =>
    have hc : c ≠ '>' ∧ c ≠ '"' ∧ c ≠ '\'' := by
      have hc := h c List.mem_cons_self
      refine ⟨?_, ?_, ?_⟩ <;> rintro rfl <;> cases hc
    rw [List.cons_append, splitTag?, if_neg fun heq => hc.1 heq.2]
    simp [hc.2, ih fun d hd => h d (List.mem_cons_of_mem c hd)]

theorem isSpace_eq_false_of_isAlpha {c : Char} (h : c.isAlpha = true) : isSpace c = false := by
  by_contra hc
  simp only [isSpace, Bool.not_eq_false, Bool.or_eq_true, beq_iff_eq] at hc
  rcases hc with ((rfl | rfl) | rfl) | rfl <;> cases h

/-- A start tag with a name of letters and nothing behind it. -/
theorem isPiece_startTag (name : List Char) (hne : name ≠ [])
    (hname : name.all Char.isAlpha = true) :
    IsPiece ('<' :: (name ++ ['>'])) (some (.start ⟨name, []⟩)) where
  exists_cons := ⟨'<', name ++ ['>'], rfl, rfl⟩
  takes := by
    intro opened final t hfinal _
    obtain rfl := Option.some.inj hfinal
    obtain ⟨c, r, rfl⟩ := List.exists_cons_of_ne_nil hne
    have h := List.all_eq_true.mp hname
    have hc : c ≠ '!' ∧ c ≠ '/' ∧ c ≠ '?' := by
      have hc := h c List.mem_cons_self
      refine ⟨?_, ?_, ?_⟩ <;> rintro rfl <;> cases hc
    have hspace : ∀ d ∈ c :: r, (!isSpace d) = true := fun d hd => by
      rw [isSpace_eq_false_of_isAlpha (h d hd)]
      rfl
    have hlast : (c :: r).getLast? ≠ some '/' := by
      intro hlast
      have hslash := h _ (List.mem_of_getLast? hlast)
      cases hslash
    have hsplit : splitTag? none (c :: (r ++ ['>'] ++ t)) = some (c :: r, t) := by
      simpa using splitTag?_of_isAlpha h t
    change readMarkup opened (c :: (r ++ ['>'] ++ t)) = _
    rw [readMarkup.eq_5 _ _ (by simp) (by simp [hc]) (by simp [hc]) (by simp [hc]), readStart,
      hsplit]
    dsimp only
    rw [if_neg hlast, tagOf, List.takeWhile_eq_self_iff.mpr hspace,
      List.dropWhile_eq_nil_iff.mpr hspace]
    rfl

/-- The end tag of an element with a name of letters. -/
theorem isPiece_finishTag (name : List Char) (hname : name.all Char.isAlpha = true) :
    IsPiece ('<' :: '/' :: (name ++ ['>'])) (some (.finish name)) where
  exists_cons := ⟨'<', '/' :: (name ++ ['>']), rfl, rfl⟩
  takes := by
    intro opened final t hfinal _
    obtain rfl := Event.after_finish_eq_some_iff.mp hfinal
    have h := List.all_eq_true.mp hname
    have hclosing : closingName name = name := by
      have hdrop := dropTailWhile_append (p := isSpace) (t := [])
        fun c hc => isSpace_eq_false_of_isAlpha (h c hc)
      rw [List.append_nil, dropTailWhile, List.append_nil] at hdrop
      rw [closingName, hdrop, ite_self]
    have hsplit : splitTag? none (name ++ ['>'] ++ t) = some (name, t) := by
      simpa using splitTag?_of_isAlpha h t
    change readFinish (name :: final) (name ++ ['>'] ++ t) = _
    rw [readFinish.eq_def, hsplit]
    dsimp only
    rw [if_pos hclosing]
    rfl

end Metasearch.Xml
