import Metasearch.Proofs.Text.Pieces

/-!
# Words

The words of a text are what stands between its white space. Where a text is put together from
parts, and each part loses white space at its ends, words may be joined that were apart. They are
not just when no word goes on from one part to the next that did not do so before.

## Main definitions

* `words`: the words of a text.
* `IsJoined`: a word goes on from one text to another.
* `Sheds`: a text without white space at its ends.

## Main results

* `words_append`: the words of two texts that are not joined.
* `exists_words_append`: the words of two texts that are.
* `words_flatMap_eq_iff`: when parts that lose white space keep the words of the whole.
-/

namespace Metasearch.Text

variable {s t u v : List Char} {c : Char}

/-- The words of a text. -/
def words (s : List Char) : List (List Char) :=
  (splitWhere isSpace s).filter fun word => !word.isEmpty

/-- Holds of two texts where a word goes on from one to the other. -/
def IsJoined (s t : List Char) : Prop :=
  (∃ c ∈ s.getLast?, isSpace c = false) ∧ ∃ c ∈ t.head?, isSpace c = false

instance : DecidableRel IsJoined :=
  fun s t => inferInstanceAs (Decidable
    ((∃ c ∈ s.getLast?, isSpace c = false) ∧ ∃ c ∈ t.head?, isSpace c = false))

/-! ### Words of two texts -/

/-- **White space parts words.** -/
theorem words_append_cons (s : List Char) (hc : isSpace c = true) (t : List Char) :
    words (s ++ c :: t) = words s ++ words t := by
  rw [words, splitWhere_append_cons s hc, List.filter_append]
  rfl

theorem words_cons (hc : isSpace c = true) (t : List Char) : words (c :: t) = words t :=
  words_append_cons [] hc t

theorem words_eq_nil (h : ∀ c ∈ s, isSpace c = true) : words s = [] := by
  induction s with
  | nil => rfl
  | cons c s ih =>
    rw [words_cons (h c List.mem_cons_self), ih fun d hd => h d (List.mem_cons_of_mem c hd)]

theorem words_append (h : ¬IsJoined s t) : words (s ++ t) = words s ++ words t := by
  rcases List.eq_nil_or_concat s with rfl | ⟨s, c, rfl⟩
  · rfl
  · rw [List.concat_eq_append] at h ⊢
    cases hc : isSpace c with
    | true =>
      rw [List.append_assoc, List.singleton_append, words_append_cons s hc,
        words_append_cons s hc, List.append_assoc]
      rfl
    | false =>
      cases t with
      | nil => rw [List.append_nil, show words [] = [] from rfl, List.append_nil]
      | cons d t =>
        have hd : isSpace d = true := by
          by_contra hd
          exact h ⟨⟨c, List.getLast?_concat, hc⟩, d, rfl, by simpa using hd⟩
        rw [words_append_cons _ hd, words_cons hd]

/-- Where two texts are joined, the last word of one and the first word of the other become one. -/
theorem exists_words_append (h : IsJoined s t) : ∃ front r r' back, words s = front ++ [r] ∧
    words t = r' :: back ∧ words (s ++ t) = front ++ (r ++ r') :: back := by
  obtain ⟨⟨c, hlast, hc⟩, d, hhead, hd⟩ := h
  obtain ⟨s, rfl⟩ := List.getLast?_eq_some_iff.mp hlast
  obtain ⟨t, rfl⟩ := List.head?_eq_some_iff.mp hhead
  obtain ⟨front, r, hs, happend⟩ := exists_splitWhere_append isSpace s
  -- the pieces where the texts meet are not empty
  have hfront : splitWhere isSpace (s ++ [c]) = front ++ [r ++ [c]] := by
    refine happend [c] [c] [] ?_
    rw [splitWhere, hc]
    rfl
  obtain ⟨r', back, ht⟩ := List.exists_cons_of_ne_nil (splitWhere_ne_nil isSpace t)
  have hback : splitWhere isSpace (d :: t) = (d :: r') :: back := by
    rw [splitWhere, hd, ht]
    rfl
  refine ⟨front.filter fun word => !word.isEmpty, r ++ [c], d :: r',
    back.filter fun word => !word.isEmpty, ?_, ?_, ?_⟩
  · rw [words, hfront]
    simp
  · rw [words, hback]
    simp
  · rw [words, splitWhere_append_of hfront hback]
    simp

theorem length_words_append (s t : List Char) : (words (s ++ t)).length =
    (words s).length + (words t).length - if IsJoined s t then 1 else 0 := by
  split_ifs with h
  · obtain ⟨front, r, r', back, hs, ht, hst⟩ := exists_words_append h
    rw [hs, ht, hst]
    simp
    omega
  · rw [words_append h, List.length_append]
    rfl

/-- The words of two texts are told by those of each, and by whether they are joined. -/
theorem words_append_congr (hs : words s = words u) (ht : words t = words v)
    (h : IsJoined s t ↔ IsJoined u v) : words (s ++ t) = words (u ++ v) := by
  by_cases hjoined : IsJoined s t
  · obtain ⟨front, r, r', back, hs₁, ht₁, hst⟩ := exists_words_append hjoined
    obtain ⟨front', q, q', back', hu, hv, huv⟩ := exists_words_append (h.mp hjoined)
    obtain ⟨rfl, hlast⟩ := List.append_inj' (hs₁.symm.trans (hs.trans hu)) rfl
    obtain ⟨rfl, rfl⟩ := List.cons.inj (ht₁.symm.trans (ht.trans hv))
    rw [hst, huv, List.singleton_inj.mp hlast]
  · rw [words_append hjoined, words_append fun huv => hjoined (h.mpr huv), hs, ht]

/-! ### Parts that lose white space at their ends -/

/-- Holds of a text and what is left when white space is taken from its ends. -/
def Sheds (s t : List Char) : Prop :=
  ∃ l r, s = l ++ (t ++ r) ∧ (∀ c ∈ l, isSpace c = true) ∧ ∀ c ∈ r, isSpace c = true

theorem Sheds.refl (s : List Char) : Sheds s s :=
  ⟨[], [], (List.append_nil s).symm, by simp, by simp⟩

theorem Sheds.reverse (h : Sheds s t) : Sheds s.reverse t.reverse := by
  obtain ⟨l, r, rfl, hl, hr⟩ := h
  exact ⟨r.reverse, l.reverse, by simp, by simpa using hr, by simpa using hl⟩

theorem Sheds.eq_nil (h : Sheds [] t) : t = [] := by
  obtain ⟨l, r, heq, -, -⟩ := h
  exact (List.append_eq_nil_iff.mp (List.append_eq_nil_iff.mp heq.symm).2).1

theorem Sheds.filter_eq (h : Sheds s t) :
    s.filter (fun c => !isSpace c) = t.filter fun c => !isSpace c := by
  obtain ⟨l, r, rfl, hl, hr⟩ := h
  have hnone {u : List Char} (hu : ∀ c ∈ u, isSpace c = true) :
      (u.filter fun c => !isSpace c) = [] := by
    rw [List.filter_eq_nil_iff]
    intro c hc
    simp [hu c hc]
  rw [List.filter_append, List.filter_append, hnone hl, hnone hr, List.nil_append,
    List.append_nil]

/-- A text that starts with a word still does so. -/
theorem Sheds.head?_eq (h : Sheds s t) (hs : s.head? = some c) (hc : isSpace c = false) :
    t.head? = some c := by
  obtain ⟨l, r, rfl, hl, hr⟩ := h
  cases l with
  | cons d l =>
    obtain rfl := Option.some.inj hs
    exact absurd (hl d List.mem_cons_self) (by rw [hc]; exact Bool.false_ne_true)
  | nil =>
    cases t with
    | cons d t => exact hs
    | nil => exact absurd (hr c (List.mem_of_mem_head? hs)) (by rw [hc]; exact Bool.false_ne_true)

theorem Sheds.words_eq (h : Sheds s t) : words s = words t := by
  obtain ⟨l, r, rfl, hl, hr⟩ := h
  have hbefore : ¬IsJoined l (t ++ r) := by
    rintro ⟨⟨c, hlast, hc⟩, -⟩
    exact Bool.false_ne_true (hc.symm.trans (hl c (List.mem_of_getLast? hlast)))
  have hafter : ¬IsJoined t r := by
    rintro ⟨-, c, hhead, hc⟩
    exact Bool.false_ne_true (hc.symm.trans (hr c (List.mem_of_mem_head? hhead)))
  rw [words_append hbefore, words_append hafter, words_eq_nil hl, words_eq_nil hr,
    List.nil_append, List.append_nil]

section

variable {α : Type} {f g : α → List Char} {a : α} {l m : List α}

theorem head?_flatMap_of_sheds (h : ∀ a ∈ l, Sheds (f a) (g a))
    (hl : (l.flatMap f).head? = some c) (hc : isSpace c = false) :
    (l.flatMap g).head? = some c := by
  induction l with
  | nil => cases hl
  | cons a l ih =>
    have ha := h a List.mem_cons_self
    rw [List.flatMap_cons] at hl ⊢
    cases hf : f a with
    | nil =>
      rw [hf] at hl ha
      rw [ha.eq_nil]
      exact ih (fun b hb => h b (List.mem_cons_of_mem a hb)) hl
    | cons d s =>
      rw [hf] at hl ha
      rw [List.head?_append, ha.head?_eq hl hc]
      rfl

theorem getLast?_flatMap_of_sheds (h : ∀ a ∈ l, Sheds (f a) (g a))
    (hl : (l.flatMap f).getLast? = some c) (hc : isSpace c = false) :
    (l.flatMap g).getLast? = some c := by
  rw [← List.head?_reverse, List.reverse_flatMap] at hl ⊢
  exact head?_flatMap_of_sheds (fun a ha => (h a (List.mem_reverse.mp ha)).reverse) hl hc

/-- Words that are joined stay so. -/
theorem isJoined_flatMap (hl : ∀ a ∈ l, Sheds (f a) (g a)) (hm : ∀ a ∈ m, Sheds (f a) (g a))
    (h : IsJoined (l.flatMap f) (m.flatMap f)) : IsJoined (l.flatMap g) (m.flatMap g) := by
  obtain ⟨⟨c, hlast, hc⟩, d, hhead, hd⟩ := h
  exact ⟨⟨c, getLast?_flatMap_of_sheds hl hlast hc, hc⟩,
    d, head?_flatMap_of_sheds hm hhead hd, hd⟩

theorem flatMap_ne_nil_of_sheds (h : ∀ a ∈ l, Sheds (f a) (g a)) (hl : l.flatMap g ≠ []) :
    l.flatMap f ≠ [] := by
  intro hnil
  refine hl (List.flatMap_eq_nil_iff.mpr fun a ha => ?_)
  have hshed := h a ha
  rw [List.flatMap_eq_nil_iff.mp hnil a ha] at hshed
  exact hshed.eq_nil

theorem isJoined_cons (h : ∀ b ∈ a :: l, Sheds (f b) (g b)) (hf : IsJoined (f a) (l.flatMap f)) :
    IsJoined (g a) (l.flatMap g) := by
  simpa using isJoined_flatMap (l := [a])
    (List.forall_mem_singleton.mpr (h a List.mem_cons_self))
    (fun b hb => h b (List.mem_cons_of_mem a hb)) (by simpa using hf)

/-- Words are joined, and never parted. -/
theorem length_words_flatMap_le (h : ∀ a ∈ l, Sheds (f a) (g a)) :
    (words (l.flatMap g)).length ≤ (words (l.flatMap f)).length := by
  induction l with
  | nil => exact Nat.le_refl _
  | cons a l ih =>
    have hle := ih fun b hb => h b (List.mem_cons_of_mem a hb)
    rw [List.flatMap_cons, List.flatMap_cons, length_words_append, length_words_append,
      (h a List.mem_cons_self).words_eq]
    by_cases hf : IsJoined (f a) (l.flatMap f)
    · rw [if_pos hf, if_pos (isJoined_cons h hf)]
      omega
    · rw [if_neg hf]
      omega

/-- **The words of the parts are kept** just when no word goes on from one part to the next that did
not do so before. -/
theorem words_flatMap_eq_iff (h : ∀ a ∈ l, Sheds (f a) (g a)) :
    words (l.flatMap g) = words (l.flatMap f) ↔ ∀ front back, l = front ++ back →
      IsJoined (front.flatMap g) (back.flatMap g) →
        IsJoined (front.flatMap f) (back.flatMap f) := by
  constructor
  · rintro heq front back rfl hg
    by_contra hf
    -- where words are joined, there is a word less than before
    have hfront := length_words_flatMap_le fun a ha => h a (List.mem_append_left back ha)
    have hback := length_words_flatMap_le fun a ha => h a (List.mem_append_right front ha)
    obtain ⟨_, _, _, _, hlast, -, -⟩ := exists_words_append hg
    have hpos : 0 < (words (front.flatMap g)).length := by
      rw [hlast]
      simp
    have hlength := congrArg List.length heq
    rw [List.flatMap_append, List.flatMap_append, length_words_append, length_words_append,
      if_pos hg, if_neg hf] at hlength
    omega
  · intro hall
    induction l with
    | nil => rfl
    | cons a l ih =>
      have hrest : ∀ b ∈ l, Sheds (f b) (g b) := fun b hb => h b (List.mem_cons_of_mem a hb)
      rw [List.flatMap_cons, List.flatMap_cons]
      refine words_append_congr (h a List.mem_cons_self).words_eq.symm ?_
        ⟨fun hg => by simpa using hall [a] l rfl (by simpa using hg), isJoined_cons h⟩
      refine ih hrest fun front back heq hg => ?_
      -- what stands in front of a part does not matter to where it ends
      obtain ⟨⟨c, hlast, hc⟩, hhead⟩ := hg
      have hne : front.flatMap f ≠ [] := by
        refine flatMap_ne_nil_of_sheds (fun b hb => hrest b ?_) ?_
        · rw [heq]
          exact List.mem_append_left back hb
        · exact fun hnil => by rw [hnil] at hlast; cases hlast
      have hcons : IsJoined ((a :: front).flatMap g) (back.flatMap g) := by
        refine ⟨⟨c, ?_, hc⟩, hhead⟩
        rw [List.flatMap_cons, List.getLast?_append, hlast]
        rfl
      obtain ⟨⟨d, hlast', hd⟩, hhead'⟩ := hall (a :: front) back (by rw [heq]; rfl) hcons
      rw [List.flatMap_cons, List.getLast?_append_of_ne_nil _ hne] at hlast'
      exact ⟨⟨d, hlast', hd⟩, hhead'⟩

end

end Metasearch.Text
