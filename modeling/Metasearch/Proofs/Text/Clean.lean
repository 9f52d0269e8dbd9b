import Metasearch.Proofs.Text.Pieces
import Metasearch.Text.Clean

/-!
# Clean text is a normal form

Cleaning takes characters away and makes white space into spaces; it never puts two characters
together that stood the other way round. An opening with a closing somewhere behind it is a
subsequence of two characters, so what one step has taken out cannot come back in a later one:
taking out tags leaves a subsequence, and collapsing changes nothing but white space.

## Main results

* `hasSpan_iff_sublist`: an annotation is a subsequence of two characters.
* `not_hasSpan_removeSpans`, `removeSpans_eq_self`: what is left when spans are taken out.
* `normal_clean`, `clean_eq_self`, `cleaned_isNormal`: clean texts are those that are normal.
-/

namespace Metasearch.Text

variable {opening closing c : Char} {s t rest : List Char} {after : Bool}

/-! ### Spans -/

/-- An opening with a closing behind it is a subsequence of two characters. -/
theorem hasSpan_iff_sublist : HasSpan opening closing s ↔ List.Sublist [opening, closing] s := by
  constructor
  · rintro ⟨before, inner, after, rfl⟩
    have htail : List.Sublist [closing] (inner ++ closing :: after) :=
      List.singleton_sublist.mpr (List.mem_append_right inner List.mem_cons_self)
    rw [List.append_assoc]
    exact (htail.cons_cons opening).trans (List.sublist_append_right before _)
  · intro h
    obtain ⟨front, back, rfl, hopening, hclosing⟩ := List.cons_sublist_iff.mp h
    obtain ⟨before, inner, rfl⟩ := List.append_of_mem hopening
    obtain ⟨inner', after, rfl⟩ := List.append_of_mem (List.singleton_sublist.mp hclosing)
    exact ⟨before, inner ++ inner', after, by simp⟩

theorem removeSpans_cons_of_ne (hc : c ≠ opening) (s : List Char) :
    removeSpans opening closing (c :: s) = c :: removeSpans opening closing s := by
  rw [removeSpans, if_neg hc]

theorem removeSpans_unclosed (hs : closing ∉ s) :
    removeSpans opening closing (opening :: s) = opening :: removeSpans opening closing s := by
  have hnone := afterFirst_unclosed hs
  rw [removeSpans, if_pos rfl]
  split
  · rename_i rest h
    rw [hnone] at h
    cases h
  · rfl

theorem removeSpans_closed {inner : List Char} (hinner : closing ∉ inner) (s : List Char) :
    removeSpans opening closing (opening :: (inner ++ closing :: s)) =
      removeSpans opening closing s := by
  have hrest := afterFirst_closing hinner s
  rw [removeSpans, if_pos rfl]
  split
  · rename_i rest h
    rw [hrest] at h
    rw [Option.some.inj h]
  · rename_i h
    rw [hrest] at h
    cases h

theorem removeSpans_sublist (opening closing : Char) (s : List Char) :
    List.Sublist (removeSpans opening closing s) s := by
  induction s using spans_induction opening closing with
  | nil => rw [removeSpans]
  | cons c r hc ih =>
    rw [removeSpans_cons_of_ne hc]
    exact ih.cons_cons c
  | unclosed r hr ih =>
    rw [removeSpans_unclosed hr]
    exact ih.cons_cons opening
  | closed inner rest hinner _ ih =>
    have hbehind : rest <:+ inner ++ closing :: rest := ⟨inner ++ [closing], by simp⟩
    rw [removeSpans_closed hinner]
    exact (ih.trans hbehind.sublist).cons opening

/-- **No span is left.** An opening stays only where no closing follows. -/
theorem not_hasSpan_removeSpans (opening closing : Char) (s : List Char) :
    ¬HasSpan opening closing (removeSpans opening closing s) := by
  rw [hasSpan_iff_sublist]
  induction s using spans_induction opening closing with
  | nil =>
    rw [removeSpans]
    exact fun h => List.cons_ne_nil _ _ (List.sublist_nil.mp h)
  | cons c r hc ih =>
    rw [removeSpans_cons_of_ne hc]
    intro h
    cases h with
    | cons _ h => exact ih h
    | cons_cons _ h => exact hc rfl
  | unclosed r hr ih =>
    rw [removeSpans_unclosed hr]
    intro h
    cases h with
    | cons _ h => exact ih h
    | cons_cons _ h =>
      exact hr ((removeSpans_sublist opening closing r).subset (List.singleton_sublist.mp h))
  | closed inner rest hinner _ ih => rwa [removeSpans_closed hinner]

theorem removeSpans_eq_self (h : ¬HasSpan opening closing s) :
    removeSpans opening closing s = s := by
  rw [hasSpan_iff_sublist] at h
  induction s using spans_induction opening closing with
  | nil => rw [removeSpans]
  | cons c r hc ih => rw [removeSpans_cons_of_ne hc, ih fun hr => h (hr.cons c)]
  | unclosed r hr ih => rw [removeSpans_unclosed hr, ih fun hr => h (hr.cons opening)]
  | closed inner rest _ _ _ =>
    have hclosing : closing ∈ inner ++ closing :: rest :=
      List.mem_append_right inner List.mem_cons_self
    exact absurd ((List.singleton_sublist.mpr hclosing).cons_cons opening) h

/-! ### White space -/

/-- White space becomes spaces, and all else is kept. -/
theorem eq_space_of_mem_collapseAfter (hc : c ∈ collapseAfter after s) (hspace : isSpace c = true) :
    c = ' ' := by
  induction s generalizing after with
  | nil => exact absurd hc List.not_mem_nil
  | cons d r ih =>
    rw [collapseAfter] at hc
    split_ifs at hc with hd
    · exact ih hc
    · rcases List.mem_cons.mp hc with rfl | hc
      · rfl
      · exact ih hc
    · rcases List.mem_cons.mp hc with rfl | hc
      · exact absurd hspace hd
      · exact ih hc

theorem filter_collapseAfter (after : Bool) (s : List Char) :
    (collapseAfter after s).filter (fun c => !isSpace c) = s.filter fun c => !isSpace c := by
  induction s generalizing after with
  | nil => rfl
  | cons d r ih =>
    rw [collapseAfter]
    split_ifs with hd hafter
    · rw [ih, List.filter_cons_of_neg (by simp [hd])]
    · rw [List.filter_cons_of_neg (by decide), ih, List.filter_cons_of_neg (by simp [hd])]
    · rw [List.filter_cons_of_pos (by simp [hd]), ih, List.filter_cons_of_pos (by simp [hd])]

/-- Spaces do not stand side by side, nor behind white space that was met before. -/
theorem not_double_collapseAfter (after : Bool) (s : List Char) :
    ¬[' ', ' '] <:+: collapseAfter after s ∧
      (after = true → (collapseAfter after s).head? ≠ some ' ') := by
  induction s generalizing after with
  | nil => exact ⟨by simp [collapseAfter], fun _ => by simp [collapseAfter]⟩
  | cons d r ih =>
    rw [collapseAfter]
    split_ifs with hd hafter
    · exact ⟨(ih true).1, fun _ => (ih true).2 rfl⟩
    · refine ⟨fun h => ?_, fun h => absurd h hafter⟩
      rcases List.infix_cons_iff.mp h with h | h
      · obtain ⟨tail, htail⟩ := h
        refine (ih true).2 rfl ?_
        rw [← (List.cons.inj htail).2]
        rfl
      · exact (ih true).1 h
    · have hne : d ≠ ' ' := fun h => hd (by rw [h]; decide)
      refine ⟨fun h => ?_, fun _ h => hne (Option.some.inj h)⟩
      rcases List.infix_cons_iff.mp h with h | h
      · obtain ⟨tail, htail⟩ := h
        exact hne (List.cons.inj htail).1.symm
      · exact (ih false).1 h

theorem collapseAfter_eq_self (hspace : ∀ c ∈ s, isSpace c = true → c = ' ')
    (hdouble : ¬[' ', ' '] <:+: s) (hhead : after = true → s.head? ≠ some ' ') :
    collapseAfter after s = s := by
  induction s generalizing after with
  | nil => rfl
  | cons d r ih =>
    have hr : ∀ c ∈ r, isSpace c = true → c = ' ' :=
      fun c hc => hspace c (List.mem_cons_of_mem d hc)
    have hdouble' : ¬[' ', ' '] <:+: r := fun h => hdouble (List.infix_cons h)
    rw [collapseAfter]
    split_ifs with hd hafter
    · rw [hspace d List.mem_cons_self hd] at hhead
      exact absurd rfl (hhead hafter)
    · obtain rfl := hspace d List.mem_cons_self hd
      rw [ih hr hdouble' fun _ h => ?_]
      obtain ⟨tail, rfl⟩ := List.head?_eq_some_iff.mp h
      exact hdouble ⟨[], tail, rfl⟩
    · rw [ih hr hdouble' fun h => absurd h Bool.false_ne_true]

/-- Two characters that are no white space stand in the same order before and after white space is
collapsed. -/
theorem hasSpan_of_collapse (hopening : isSpace opening = false)
    (hclosing : isSpace closing = false) (h : HasSpan opening closing (collapse s)) :
    HasSpan opening closing s := by
  rw [hasSpan_iff_sublist] at h ⊢
  have hkept := h.filter fun c => !isSpace c
  rw [collapse, filter_collapseAfter] at hkept
  have hpair : [opening, closing].filter (fun c => !isSpace c) = [opening, closing] := by
    simp [hopening, hclosing]
  rw [hpair] at hkept
  exact hkept.trans List.filter_sublist

/-! ### Both ends -/

theorem trimWhere_infix (p : Char → Bool) (s : List Char) : trimWhere p s <:+: s := by
  rw [trimWhere, dropTailWhile_eq_rdropWhile]
  exact (List.rdropWhile_prefix p _).isInfix.trans (s.dropWhile_suffix p).isInfix

theorem not_of_head?_trimWhere {p : Char → Bool} (h : c ∈ (trimWhere p s).head?) : p c = false := by
  rw [trimWhere, dropTailWhile_eq_rdropWhile] at h
  obtain ⟨tail, htail⟩ := List.head?_eq_some_iff.mp h
  have hprefix := List.rdropWhile_prefix p (s.dropWhile p)
  rw [htail] at hprefix
  obtain ⟨more, hmore⟩ := hprefix
  have hfirst := List.head?_dropWhile_not p s
  rw [← hmore] at hfirst
  exact hfirst

theorem not_of_getLast?_trimWhere {p : Char → Bool} (h : c ∈ (trimWhere p s).getLast?) :
    p c = false := by
  rw [trimWhere, dropTailWhile_eq_rdropWhile] at h
  obtain ⟨hne, rfl⟩ := List.mem_getLast?_eq_getLast h
  exact Bool.eq_false_iff.mpr (List.rdropWhile_last_not p _ hne)

/-- Nothing is dropped from a text that neither starts nor ends with what is dropped. -/
theorem trimWhere_eq_self_of_ends {p : Char → Bool} (hhead : ∀ c ∈ s.head?, p c = false)
    (hlast : ∀ c ∈ s.getLast?, p c = false) : trimWhere p s = s := by
  have hfront : s.dropWhile p = s := by
    cases s with
    | nil => rfl
    | cons c r => rw [List.dropWhile_cons, hhead c rfl]; rfl
  rw [trimWhere, hfront, dropTailWhile_eq_rdropWhile, List.rdropWhile_eq_self_iff]
  intro hne h
  exact absurd ((hlast _ (List.getLast_mem_getLast? hne)).symm.trans h) Bool.false_ne_true

/-- What is dropped stands around a text. -/
theorem trimWhere_append {p : Char → Bool} {before front after : List Char}
    (hbefore : ∀ c ∈ before, p c = true) (hhead : ∀ c ∈ (front ++ [d]).head?, p c = false)
    (hd : p d = false) (hafter : ∀ c ∈ after, p c = true) :
    trimWhere p (before ++ (front ++ [d] ++ after)) = front ++ [d] := by
  have hfront : (front ++ [d] ++ after).dropWhile p = front ++ d :: after := by
    cases front with
    | nil => exact List.dropWhile_cons_of_neg (by simp [hd])
    | cons c r =>
      rw [List.append_assoc]
      exact List.dropWhile_cons_of_neg (by simp [hhead c rfl])
  have hrest : dropTailWhile p after = [] := by
    rw [dropTailWhile_eq_rdropWhile, List.rdropWhile_eq_nil_iff]
    exact hafter
  rw [trimWhere, List.dropWhile_append_of_pos hbefore, hfront, dropTailWhile_append_cons hd, hrest]

/-! ### Normal texts -/

/-- **Cleaning gives a normal text.** -/
theorem normal_clean (s : List Char) : Normal (clean s) := by
  have hinner := trimWhere_infix isSpace
    (collapse (removeSpans '<' '>' (removeSpans '[' ']' (collapse s))))
  have hspan : ∀ {opening closing : Char}, isSpace opening = false → isSpace closing = false →
      HasSpan opening closing (clean s) →
        HasSpan opening closing (removeSpans '<' '>' (removeSpans '[' ']' (collapse s))) := by
    intro opening closing hopening hclosing h
    refine hasSpan_of_collapse hopening hclosing ?_
    rw [hasSpan_iff_sublist] at h ⊢
    exact h.trans hinner.sublist
  refine ⟨fun c hc => ?_, fun before after h => ?_, fun h => ?_, fun h => ?_, fun h => ?_,
    fun h => ?_⟩
  · exact eq_space_of_mem_collapseAfter (hinner.subset hc)
  · have hdouble : [' ', ' '] <:+: clean s := ⟨before, after, by rw [h]; simp⟩
    exact (not_double_collapseAfter false _).1 (hdouble.trans hinner)
  · exact absurd (not_of_head?_trimWhere h) (by decide)
  · exact absurd (not_of_getLast?_trimWhere h) (by decide)
  · -- no bracket comes back when tags are taken out
    have hleft := hasSpan_iff_sublist.mp (hspan (by decide) (by decide) h)
    exact not_hasSpan_removeSpans '[' ']' (collapse s)
      (hasSpan_iff_sublist.mpr (hleft.trans (removeSpans_sublist '<' '>' _)))
  · exact not_hasSpan_removeSpans '<' '>' _ (hspan (by decide) (by decide) h)

/-- **A normal text stays as it is.** -/
theorem clean_eq_self (h : Normal s) : clean s = s := by
  have hdouble : ¬[' ', ' '] <:+: s := by
    rintro ⟨before, after, hs⟩
    exact h.not_double before after (by rw [← hs]; simp)
  have hcollapse : collapse s = s :=
    collapseAfter_eq_self h.space_eq hdouble fun h => absurd h Bool.false_ne_true
  have hends : ∀ c, c ∈ s → c ≠ ' ' → isSpace c = false := fun c hc hne =>
    Bool.eq_false_iff.mpr fun hspace => hne (h.space_eq c hc hspace)
  rw [clean, hcollapse, removeSpans_eq_self h.no_bracket, removeSpans_eq_self h.no_tag, hcollapse]
  refine trimWhere_eq_self_of_ends (fun c hc => ?_) fun c hc => ?_
  · exact hends c (List.mem_of_mem_head? hc) fun hspace => h.head_ne (hspace ▸ hc)
  · exact hends c (List.mem_of_mem_getLast? hc) fun hspace => h.last_ne (hspace ▸ hc)

/-- **Cleaning gives a normal text and changes no other.** -/
theorem cleaned_isNormal (s : String) :
    Normal (cleaned s).toList ∧ (cleaned s = s ↔ Normal s.toList) ∧
      cleaned (cleaned s) = cleaned s := by
  have hnormal : ∀ s : String, Normal (cleaned s).toList := fun s => by
    rw [cleaned, String.toList_ofList]
    exact normal_clean s.toList
  have hfix : ∀ s : String, Normal s.toList → cleaned s = s := fun s h => by
    rw [cleaned, clean_eq_self h, String.ofList_toList]
  refine ⟨hnormal s, ⟨fun h => ?_, hfix s⟩, hfix _ (hnormal s)⟩
  rw [← h]
  exact hnormal s

/-- Crossing and open delimiters: what is left of them is no span. -/
example : clean "a [b <c] d>\te [ <i>f</i>".toList = "a d> e [ f".toList := by decide +kernel

end Metasearch.Text
