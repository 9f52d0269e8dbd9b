import Mathlib.Tactic.SplitIfs
import Metasearch.Proofs.Text.Pieces
import Metasearch.Proofs.Xml.Content
import Metasearch.Xml.Reader

/-!
# Documents piece by piece

The reader takes a document piece by piece. Each piece ends with a mark of its own, text alone ends
where the next bracket stands; and what a piece says does not depend on the elements that are open.
So a stretch of a document says the same wherever it stands, and what is read of a document is what
its pieces say, if every element that ends is the innermost that is open.

## Main definitions

* `IsPiece`: a text that is read as one event, or skipped, wherever it stands.
* `Spells`: a text is made of pieces.

## Main results

* `isLocal_next`: what the reader takes is a piece.
* `exists_spells_of_read`, `read_of_spells`: reading by pieces.
* `Spells.append`, `Spells.exists_append`: stretches of a document.
-/

namespace Metasearch.Xml

open Metasearch.Text

variable {opened final : List (List Char)} {es : List Event} {p q r s t : List Char}
  {quote : Option Char} {depth : Nat} {e : Option Event} {c : Char}

/-! ### Marks -/

/-- A tag ends at its bracket whatever follows. -/
theorem splitTag?_eq_some {tag rest : List Char} (h : splitTag? quote s = some (tag, rest)) :
    s = tag ++ '>' :: rest ∧ ∀ t, splitTag? quote (tag ++ '>' :: t) = some (tag, t) := by
  induction s generalizing quote tag with
  | nil => cases h
  | cons c s ih =>
    rw [splitTag?.eq_def] at h
    dsimp only at h
    by_cases hend : quote = none ∧ c = '>'
    · rw [if_pos hend] at h
      obtain ⟨rfl, rfl⟩ := Prod.mk.inj (Option.some.inj h)
      obtain ⟨rfl, rfl⟩ := hend
      exact ⟨rfl, fun t => rfl⟩
    · rw [if_neg hend] at h
      obtain ⟨⟨tag', rest'⟩, hs, hcons⟩ := Option.map_eq_some_iff.mp h
      obtain ⟨rfl, rfl⟩ := Prod.mk.inj hcons
      obtain ⟨rfl, hlocal⟩ := ih hs
      refine ⟨rfl, fun t => ?_⟩
      rw [List.cons_append, splitTag?.eq_def]
      dsimp only
      rw [if_neg hend, hlocal t]
      rfl

/-- A declaration ends at its bracket whatever follows. -/
theorem splitDeclaration?_eq_some {d rest : List Char}
    (h : splitDeclaration? depth s = some (d, rest)) :
    s = d ++ '>' :: rest ∧ ∀ t, splitDeclaration? depth (d ++ '>' :: t) = some (d, t) := by
  fun_induction splitDeclaration? depth s generalizing d with
  | case1 => cases h
  | case2 r =>
    obtain ⟨rfl, rfl⟩ := Prod.mk.inj (Option.some.inj h)
    exact ⟨rfl, fun t => rfl⟩
  | case3 r depth ih =>
    obtain ⟨⟨d', rest'⟩, hs, hcons⟩ := Option.map_eq_some_iff.mp h
    obtain ⟨rfl, rfl⟩ := Prod.mk.inj hcons
    obtain ⟨rfl, hlocal⟩ := ih hs
    refine ⟨rfl, fun t => ?_⟩
    rw [List.cons_append, splitDeclaration?, if_pos rfl, hlocal t]
    rfl
  | case4 depth c r hc ih =>
    obtain ⟨⟨d', rest'⟩, hs, hcons⟩ := Option.map_eq_some_iff.mp h
    obtain ⟨rfl, rfl⟩ := Prod.mk.inj hcons
    obtain ⟨rfl, hlocal⟩ := ih hs
    refine ⟨rfl, fun t => ?_⟩
    rw [List.cons_append, splitDeclaration?.eq_def]
    dsimp only
    rw [if_neg hc, hlocal t]
    rfl

/-- A mark is found at the same place whatever follows it. -/
theorem splitAt?_eq_some {mark before rest : List Char} (hmark : mark ≠ [])
    (h : splitAt? mark s = some (before, rest)) :
    s = before ++ (mark ++ rest) ∧
      ∀ t, splitAt? mark (before ++ (mark ++ t)) = some (before, t) := by
  obtain ⟨m, mark', rfl⟩ := List.exists_cons_of_ne_nil hmark
  induction s generalizing before with
  | nil =>
    rw [splitAt?] at h
    cases h
  | cons c s ih =>
    rw [splitAt?] at h
    split_ifs at h with hfirst
    · obtain ⟨rfl, rfl⟩ := Prod.mk.inj (Option.some.inj h)
      have hwhole := List.prefix_iff_eq_append.mp (List.isPrefixOf_iff_prefix.mp hfirst)
      refine ⟨hwhole.symm, fun t => ?_⟩
      rw [List.nil_append, List.cons_append, splitAt?, if_pos (by simp)]
      simp
    · obtain ⟨⟨before', rest'⟩, hs, hcons⟩ := Option.map_eq_some_iff.mp h
      obtain ⟨rfl, rfl⟩ := Prod.mk.inj hcons
      obtain ⟨rfl, hlocal⟩ := ih hs
      refine ⟨rfl, fun t => ?_⟩
      -- a mark that starts here would end before what follows
      have hnot : ¬(m :: mark').isPrefixOf (c :: (before' ++ (m :: mark' ++ t))) := by
        intro hprefix
        refine hfirst (List.isPrefixOf_iff_prefix.mpr ?_)
        have hfront : m :: mark' <+: c :: (before' ++ m :: mark') := by
          refine List.prefix_of_prefix_length_le (List.isPrefixOf_iff_prefix.mp hprefix)
            ⟨t, by simp⟩ ?_
          simp
          omega
        exact hfront.trans ⟨rest', by simp⟩
      rw [List.cons_append, splitAt?, if_neg hnot, hlocal t]
      rfl

/-! ### Pieces -/

/-- An event, or a piece that is skipped. -/
def Step.of (e : Option Event) (opened : List (List Char)) (rest : List Char) : Step :=
  match e with
  | some e => .event e opened rest
  | none => .skipped rest

/-- The elements that are open after a piece. -/
def openAfter (opened : List (List Char)) (e : Option Event) : Option (List (List Char)) :=
  e.elim (some opened) (Event.after opened)

/-- Text goes on to the next bracket; any other piece may stand before anything. -/
def Fits (e : Option Event) (t : List Char) : Prop :=
  ∀ raw, e = some (.text raw) → ∀ c ∈ t.head?, c = '<'

/-- A reader takes a text for the same piece whatever elements are open and whatever follows. -/
def Takes (f : List (List Char) → List Char → Step) (p : List Char) (e : Option Event) : Prop :=
  ∀ opened final t, openAfter opened e = some final → Fits e t →
    f opened (p ++ t) = .of e final t

/-- A reader takes a piece from the front of a text, or finds a fault. -/
def IsLocal (f : List (List Char) → List Char → Step) (opened : List (List Char))
    (s : List Char) : Prop :=
  f opened s = .fault ∨
    ∃ p e final r, p ≠ [] ∧ s = p ++ r ∧ openAfter opened e = some final ∧ Fits e r ∧ Takes f p e

section Readers

variable {f g : List (List Char) → List Char → Step}

/-- A piece behind a mark, where the mark and what comes next tell which reader takes it. -/
theorem IsLocal.of_eq (h : IsLocal g opened s) (mark : List Char)
    (hfg : ∀ opened t, t.head? = s.head? → f opened (mark ++ t) = g opened t) :
    IsLocal f opened (mark ++ s) := by
  rcases h with h | ⟨p, e, final, r, hp, rfl, hfinal, hfits, htakes⟩
  · exact Or.inl ((hfg opened s rfl).trans h)
  · refine Or.inr ⟨mark ++ p, e, final, r, ?_, (List.append_assoc mark p r).symm, hfinal, hfits, ?_⟩
    · exact fun hnil => hp (List.append_eq_nil_iff.mp hnil).2
    · intro opened final t hfinal hfits
      obtain ⟨c, p, rfl⟩ := List.exists_cons_of_ne_nil hp
      rw [List.append_assoc, hfg opened (c :: p ++ t) rfl]
      exact htakes opened final t hfinal hfits

/-- A piece that neither starts nor ends an element. -/
theorem isLocal_append (hp : p ≠ []) (he : ∀ opened, openAfter opened e = some opened)
    (hfits : ∀ t, Fits e t) (h : ∀ opened t, f opened (p ++ t) = .of e opened t) :
    IsLocal f opened (p ++ r) := by
  refine Or.inr ⟨p, e, opened, r, hp, rfl, he opened, hfits r, ?_⟩
  intro opened final t hfinal _
  obtain rfl := Option.some.inj ((he opened).symm.trans hfinal)
  exact h opened t

theorem fits_of_ne_text (he : ∀ raw, e ≠ some (.text raw)) (t : List Char) : Fits e t :=
  fun raw hraw => absurd hraw (he raw)

theorem isLocal_readStart (opened : List (List Char)) (s : List Char) :
    IsLocal readStart opened s := by
  cases hsplit : splitTag? none s with
  | none =>
    left
    rw [readStart, hsplit]
  | some parts =>
    obtain ⟨tag, rest⟩ := parts
    obtain ⟨rfl, hlocal⟩ := splitTag?_eq_some hsplit
    have hne : tag ++ ['>'] ≠ [] := by simp
    rw [List.append_cons]
    by_cases hsingle : tag.getLast? = some '/'
    · refine isLocal_append (e := some (.single (tagOf tag.dropLast))) hne (fun _ => rfl)
        (fits_of_ne_text (by simp)) fun opened t => ?_
      rw [← List.append_cons, readStart, hlocal t]
      dsimp only
      rw [if_pos hsingle]
      rfl
    · refine Or.inr ⟨_, some (.start (tagOf tag)), _, rest, hne, rfl, rfl,
        fits_of_ne_text (by simp) _, ?_⟩
      intro opened final t hfinal _
      obtain rfl := Option.some.inj hfinal
      rw [← List.append_cons, readStart, hlocal t]
      dsimp only
      rw [if_neg hsingle]
      rfl

theorem isLocal_readFinish (opened : List (List Char)) (s : List Char) :
    IsLocal readFinish opened s := by
  cases hsplit : splitTag? none s with
  | none =>
    left
    rw [readFinish.eq_def, hsplit]
  | some parts =>
    obtain ⟨tag, rest⟩ := parts
    obtain ⟨rfl, hlocal⟩ := splitTag?_eq_some hsplit
    cases opened with
    | nil =>
      left
      rw [readFinish.eq_def, hsplit]
    | cons name outer =>
      by_cases hname : closingName tag = name
      · right
        rw [List.append_cons tag]
        refine ⟨tag ++ ['>'], some (.finish name), outer, rest, by simp, rfl,
          Event.after_finish_eq_some_iff.mpr rfl, fits_of_ne_text (by simp) _, ?_⟩
        intro opened final t hfinal _
        obtain rfl := Event.after_finish_eq_some_iff.mp hfinal
        rw [← List.append_cons, readFinish.eq_def, hlocal t]
        dsimp only
        rw [if_pos hname]
        rfl
      · left
        rw [readFinish.eq_def, hsplit]
        dsimp only
        rw [if_neg hname]

theorem isLocal_readType (opened : List (List Char)) (s : List Char) :
    IsLocal (fun _ => readType) opened s := by
  cases hsplit : splitDeclaration? 0 s with
  | none =>
    left
    change readType s = .fault
    rw [readType, hsplit]
  | some parts =>
    obtain ⟨d, rest⟩ := parts
    obtain ⟨rfl, hlocal⟩ := splitDeclaration?_eq_some hsplit
    by_cases htype : lower (d.take 7) = "doctype".toList ∧ (d.drop 7).any fun c => !isSpace c
    · rw [List.append_cons]
      refine isLocal_append (e := none) (by simp) (fun _ => rfl) (fits_of_ne_text (by simp))
        fun opened t => ?_
      rw [← List.append_cons, readType, hlocal t]
      dsimp only
      rw [if_pos htype]
      rfl
    · left
      change readType (d ++ '>' :: rest) = .fault
      rw [readType, hsplit]
      dsimp only
      rw [if_neg htype]

/-- The reader of what goes up to a mark. -/
def readUntil (mark : List Char) (e : List Char → Option Event) (opened : List (List Char))
    (s : List Char) : Step :=
  match splitAt? mark s with
  | some (raw, rest) => .of (e raw) opened rest
  | none => .fault

theorem isLocal_readUntil {mark : List Char} {e : List Char → Option Event} (hmark : mark ≠ [])
    (he : ∀ raw opened, openAfter opened (e raw) = some opened) (hfits : ∀ raw t, Fits (e raw) t)
    (opened : List (List Char)) (s : List Char) : IsLocal (readUntil mark e) opened s := by
  cases hsplit : splitAt? mark s with
  | none =>
    left
    rw [readUntil, hsplit]
  | some parts =>
    obtain ⟨raw, rest⟩ := parts
    obtain ⟨rfl, hlocal⟩ := splitAt?_eq_some hmark hsplit
    rw [← List.append_assoc]
    refine isLocal_append (by simp [hmark]) (he raw) (hfits raw) fun opened t => ?_
    rw [List.append_assoc, readUntil, hlocal t]

theorem isLocal_readInstruction (opened : List (List Char)) (s : List Char) :
    IsLocal (fun _ => readInstruction) opened s := by
  by_cases hempty : s.head? = some '>'
  · obtain ⟨r, rfl⟩ := List.head?_eq_some_iff.mp hempty
    exact Or.inl rfl
  · have hlocal : IsLocal (readUntil ['?', '>'] fun _ => none) opened s :=
      isLocal_readUntil (by simp) (fun _ _ => rfl) (fun _ => fits_of_ne_text (by simp)) opened s
    refine hlocal.of_eq [] fun opened t ht => ?_
    rw [List.nil_append, readInstruction.eq_def]
    split
    · rename_i r
      exact absurd (ht.symm.trans rfl) hempty
    · rfl

theorem isLocal_readMarked (opened : List (List Char)) (s : List Char) :
    IsLocal readMarked opened s := by
  by_cases hcomment : ∃ r, s = '-' :: '-' :: r
  · obtain ⟨r, rfl⟩ := hcomment
    have hlocal : IsLocal (readUntil ['-', '-', '>'] fun _ => none) opened r :=
      isLocal_readUntil (by simp) (fun _ _ => rfl) (fun _ => fits_of_ne_text (by simp)) opened r
    exact hlocal.of_eq ['-', '-'] fun opened t _ => rfl
  by_cases hverbatim : ∃ r, s = "[CDATA[".toList ++ r
  · obtain ⟨r, rfl⟩ := hverbatim
    have hlocal : IsLocal (readUntil [']', ']', '>'] fun raw => some (.verbatim raw)) opened r :=
      isLocal_readUntil (by simp) (fun _ _ => rfl) (fun _ => fits_of_ne_text (by simp)) opened r
    exact hlocal.of_eq "[CDATA[".toList fun opened t _ => rfl
  by_cases htype : s.head? = some 'D' ∨ s.head? = some 'd'
  · refine (isLocal_readType opened s).of_eq [] fun opened t ht => ?_
    rcases htype with htype | htype
    · obtain ⟨r, rfl⟩ := List.head?_eq_some_iff.mp (ht.trans htype)
      rfl
    · obtain ⟨r, rfl⟩ := List.head?_eq_some_iff.mp (ht.trans htype)
      rfl
  · left
    rw [readMarked.eq_def]
    split
    · exact absurd ⟨_, rfl⟩ hcomment
    · exact absurd ⟨_, rfl⟩ hverbatim
    · exact absurd (Or.inl rfl) htype
    · exact absurd (Or.inr rfl) htype
    · rfl

theorem isLocal_readMarkup (opened : List (List Char)) (s : List Char) :
    IsLocal readMarkup opened s := by
  cases s with
  | nil => exact Or.inl rfl
  | cons c r =>
    by_cases hmarked : c = '!'
    · subst hmarked
      exact (isLocal_readMarked opened r).of_eq ['!'] fun _ _ _ => rfl
    by_cases hfinish : c = '/'
    · subst hfinish
      exact (isLocal_readFinish opened r).of_eq ['/'] fun _ _ _ => rfl
    by_cases hinstruction : c = '?'
    · subst hinstruction
      exact (isLocal_readInstruction opened r).of_eq ['?'] fun _ _ _ => rfl
    refine (isLocal_readStart opened (c :: r)).of_eq [] fun opened t ht => ?_
    obtain ⟨r, rfl⟩ := List.head?_eq_some_iff.mp ht
    have hne : ∀ d, c ≠ d → ∀ r', c :: r = d :: r' → False := fun d hd r' h =>
      hd (List.cons.inj h).1
    exact readMarkup.eq_5 opened (c :: r) (by simp) (hne '!' hmarked) (hne '/' hfinish)
      (hne '?' hinstruction)

/-- Text that ends where a bracket stands, or at the end. -/
theorem span_append (hs : ∀ c ∈ s, (c == '<') = false) (ht : ∀ c ∈ t.head?, c = '<') :
    beforeFirst (· == '<') (s ++ t) = s ∧ (s ++ t).dropWhile (fun c => !(c == '<')) = t := by
  have hs' : ∀ c ∈ s, (!(c == '<')) = true := fun c hc => by rw [hs c hc]; rfl
  cases t with
  | nil =>
    rw [List.append_nil]
    exact ⟨beforeFirst_eq_self hs, List.dropWhile_eq_nil_iff.mpr hs'⟩
  | cons c t =>
    obtain rfl := ht c rfl
    rw [beforeFirst_append hs rfl, List.dropWhile_append_of_pos hs']
    exact ⟨rfl, rfl⟩

/-- **What the reader takes is a piece.** Text goes up to the next bracket, which then follows. -/
theorem isLocal_next (opened : List (List Char)) (hs : s ≠ []) : IsLocal next opened s := by
  obtain ⟨c, r, rfl⟩ := List.exists_cons_of_ne_nil hs
  by_cases hc : c = '<'
  · subst hc
    exact (isLocal_readMarkup opened r).of_eq ['<'] fun _ _ _ => rfl
  · have htext : ∀ opened r, next opened (c :: r) = .event
        (.text (dropTailWhile isSpace (beforeFirst (· == '<') (c :: r)))) opened
        ((c :: r).dropWhile fun c => !(c == '<')) := fun opened r =>
      next.eq_2 opened (c :: r) fun r' h => hc (List.cons.inj h).1
    have hfree : ∀ d ∈ beforeFirst (· == '<') (c :: r), (d == '<') = false :=
      fun d hd => not_of_mem_beforeFirst (p := (· == '<')) hd
    obtain ⟨p, hp⟩ : ∃ p, beforeFirst (· == '<') (c :: r) = c :: p :=
      ⟨_, List.takeWhile_cons_of_pos (by simp [hc])⟩
    rw [hp] at hfree
    refine Or.inr ⟨c :: p, some (.text (dropTailWhile isSpace (c :: p))), opened,
      (c :: r).dropWhile fun c => !(c == '<'), List.cons_ne_nil c p, ?_, rfl, ?_, ?_⟩
    · rw [← hp]
      exact List.takeWhile_append_dropWhile.symm
    · intro raw _ d hd
      have hhead := List.head?_dropWhile_not (fun c => !(c == '<')) (c :: r)
      rw [hd] at hhead
      simpa using hhead
    · intro opened final t hfinal hfits
      obtain rfl := Option.some.inj hfinal
      obtain ⟨hbefore, hafter⟩ := span_append hfree (hfits _ rfl)
      rw [List.cons_append] at hbefore hafter ⊢
      rw [htext, hbefore, hafter]
      rfl

end Readers

/-! ### Stretches -/

/-- A text that is read as one event, or skipped, wherever it stands. -/
structure IsPiece (p : List Char) (e : Option Event) : Prop where
  /-- White space is dropped between pieces, so none starts with it. -/
  exists_cons : ∃ c r, p = c :: r ∧ isSpace c = false
  /-- The reader takes it. -/
  takes : Takes next p e

theorem IsPiece.length_lt (hp : IsPiece p e) (s : List Char) : s.length < (p ++ s).length := by
  obtain ⟨c, r, rfl, -⟩ := hp.exists_cons
  rw [List.length_append, List.length_cons]
  omega

/-- A text is made of the pieces of a series of events. -/
inductive Spells : List Char → List Event → Prop
  /-- Nothing says nothing. -/
  | nil : Spells [] []
  /-- White space in front does not count. -/
  | space {c : Char} {s : List Char} {es : List Event} (hc : isSpace c = true)
      (h : Spells s es) : Spells (c :: s) es
  /-- A piece in front. -/
  | piece {p s : List Char} {e : Option Event} {es : List Event} (hp : IsPiece p e)
      (hfits : Fits e s) (h : Spells s es) : Spells (p ++ s) (e.toList ++ es)

theorem Spells.of_dropWhile (h : Spells (s.dropWhile isSpace) es) : Spells s es := by
  induction s with
  | nil => exact h
  | cons c s ih =>
    rw [List.dropWhile_cons] at h
    split_ifs at h with hc
    · exact (ih h).space hc
    · exact h

/-- The elements that are open are counted piece by piece. -/
theorem foldlM_toList_append (e : Option Event) (es : List Event) :
    (e.toList ++ es).foldlM Event.after opened =
      (openAfter opened e).bind (es.foldlM Event.after) := by
  cases e with
  | none => rfl
  | some e => exact List.foldlM_cons

theorem readFrom_dropWhile (fuel : Nat) (s : List Char) :
    readFrom fuel opened (s.dropWhile isSpace) = readFrom fuel opened s := by
  cases fuel with
  | zero => rfl
  | succ fuel => rw [readFrom, readFrom, List.dropWhile_idempotent]

theorem readFrom_of_isPiece {fuel : Nat} (hp : IsPiece p e)
    (hfinal : openAfter opened e = some final) (hfits : Fits e s) :
    readFrom (fuel + 1) opened (p ++ s) =
      ⟨e.toList ++ (readFrom fuel final s).events, (readFrom fuel final s).sound⟩ := by
  obtain ⟨c, r, rfl, hc⟩ := hp.exists_cons
  have htakes := hp.takes opened final s hfinal hfits
  have hdrop : (c :: r ++ s).dropWhile isSpace = c :: r ++ s :=
    List.dropWhile_cons_of_neg (by rw [hc]; exact Bool.false_ne_true)
  rw [readFrom, hdrop]
  dsimp only [List.cons_append] at htakes ⊢
  rw [htakes]
  cases e with
  | none =>
    obtain rfl := Option.some.inj hfinal
    rfl
  | some e => rfl

/-- The first piece of a document that does not start with white space. -/
theorem exists_isPiece (opened : List (List Char)) (hs : s.dropWhile isSpace ≠ []) :
    next opened (s.dropWhile isSpace) = .fault ∨ ∃ p e final r, s.dropWhile isSpace = p ++ r ∧
      IsPiece p e ∧ openAfter opened e = some final ∧ Fits e r := by
  rcases isLocal_next opened hs with hfault | ⟨p, e, final, r, hp, hs, hfinal, hfits, htakes⟩
  · exact Or.inl hfault
  · obtain ⟨c, p, rfl⟩ := List.exists_cons_of_ne_nil hp
    have hhead := List.head?_dropWhile_not isSpace s
    rw [hs] at hhead
    exact Or.inr ⟨c :: p, e, final, r, hs, ⟨⟨c, p, rfl, hhead⟩, htakes⟩, hfinal, hfits⟩

/-- What is read is what the pieces say. -/
theorem spells_of_readFrom {fuel : Nat} (hfuel : s.length < fuel)
    (h : readFrom fuel opened s = ⟨es, true⟩) :
    Spells s es ∧ ∃ final, es.foldlM Event.after opened = some final := by
  induction fuel generalizing opened s es with
  | zero => exact absurd hfuel (Nat.not_lt_zero _)
  | succ fuel ih =>
    rw [← readFrom_dropWhile] at h
    suffices hdrop : Spells (s.dropWhile isSpace) es ∧
        ∃ final, es.foldlM Event.after opened = some final from ⟨hdrop.1.of_dropWhile, hdrop.2⟩
    by_cases hs : s.dropWhile isSpace = []
    · rw [hs] at h ⊢
      obtain ⟨rfl, -⟩ := Reading.mk.inj h
      exact ⟨.nil, opened, rfl⟩
    · rcases exists_isPiece opened hs with hfault | ⟨p, e, final, r, hwhole, hp, hfinal, hfits⟩
      · obtain ⟨c, r, hcons⟩ := List.exists_cons_of_ne_nil hs
        rw [readFrom, List.dropWhile_idempotent, hcons] at h
        rw [hcons] at hfault
        dsimp only at h
        rw [hfault] at h
        cases h
      · rw [hwhole, readFrom_of_isPiece hp hfinal hfits] at h
        obtain ⟨rfl, hsound⟩ := Reading.mk.inj h
        have hlength : r.length < fuel := by
          have hle := (List.dropWhile_suffix (l := s) isSpace).length_le
          rw [hwhole] at hle
          have hlt := hp.length_lt r
          omega
        have hrest : readFrom fuel final r = ⟨(readFrom fuel final r).events, true⟩ := by
          rw [← hsound]
        obtain ⟨hspells, final', hfinal'⟩ := ih hlength hrest
        rw [hwhole, foldlM_toList_append, hfinal]
        exact ⟨.piece hp hfits hspells, final', hfinal'⟩

/-- The pieces are read, if no element ends before it is the innermost. -/
theorem readFrom_of_spells (hs : Spells s es) {fuel : Nat} (hfuel : s.length < fuel)
    (hfinal : es.foldlM Event.after opened = some final) :
    readFrom fuel opened s = ⟨es, true⟩ := by
  induction hs generalizing opened fuel with
  | nil =>
    cases fuel with
    | zero => rfl
    | succ fuel => rfl
  | space hc h ih =>
    rw [← readFrom_dropWhile, List.dropWhile_cons_of_pos hc, readFrom_dropWhile]
    exact ih (Nat.lt_of_succ_lt hfuel) hfinal
  | @piece p s e es hp hfits h ih =>
    rw [foldlM_toList_append] at hfinal
    obtain ⟨next, hnext, hfinal⟩ := Option.bind_eq_some_iff.mp hfinal
    cases fuel with
    | zero => exact absurd hfuel (Nat.not_lt_zero _)
    | succ fuel =>
      have hlt := hp.length_lt s
      rw [readFrom_of_isPiece hp hnext hfits, ih (by omega) hfinal]

/-- Stretches one after the other, if a bracket stands in between. -/
theorem Spells.append {es' : List Event} (hs : Spells s es) (ht : Spells t es')
    (hbracket : ∀ c ∈ t.head?, c = '<') : Spells (s ++ t) (es ++ es') := by
  induction hs with
  | nil => exact ht
  | space hc h ih => exact .space hc ih
  | @piece p s e es hp hfits h ih =>
    rw [List.append_assoc, List.append_assoc]
    refine .piece hp (fun raw he => ?_) ih
    cases s with
    | nil => exact hbracket
    | cons c s => exact hfits raw he

/-- A part of what is said is said by a stretch. -/
theorem Spells.exists_append {es₁ es₂ : List Event} (h : Spells s (es₁ ++ es₂)) :
    ∃ s₁ s₂, s = s₁ ++ s₂ ∧ Spells s₁ es₁ ∧ Spells s₂ es₂ := by
  generalize hes : es₁ ++ es₂ = es at h
  induction h generalizing es₁ with
  | nil =>
    obtain ⟨rfl, rfl⟩ := List.append_eq_nil_iff.mp hes
    exact ⟨[], [], rfl, .nil, .nil⟩
  | @space c s es hc h ih =>
    obtain ⟨s₁, s₂, rfl, h₁, h₂⟩ := ih hes
    exact ⟨c :: s₁, s₂, rfl, .space hc h₁, h₂⟩
  | @piece p s e es hp hfits h ih =>
    cases hfirst : es₁ with
    | nil =>
      refine ⟨[], p ++ s, rfl, .nil, ?_⟩
      rw [hfirst, List.nil_append] at hes
      rw [hes]
      exact .piece hp hfits h
    | cons e₁ rest =>
      obtain ⟨es₁', hes₁, hes'⟩ : ∃ es₁', es₁ = e.toList ++ es₁' ∧ es₁' ++ es₂ = es := by
        cases e with
        | none => exact ⟨es₁, rfl, hes⟩
        | some e =>
          rw [hfirst] at hes ⊢
          obtain ⟨rfl, hrest⟩ := List.cons.inj hes
          exact ⟨rest, rfl, hrest⟩
      obtain ⟨s₁, s₂, rfl, h₁, h₂⟩ := ih hes'
      refine ⟨p ++ s₁, s₂, (List.append_assoc p s₁ s₂).symm, ?_, h₂⟩
      rw [← hfirst, hes₁]
      refine .piece hp (fun raw he c hc => hfits raw he c ?_) h₁
      rw [List.head?_append, hc]
      rfl

theorem Spells.exists_infix {es' : List Event} (h : Spells s es) (hin : es' <:+: es) :
    ∃ s', s' <:+: s ∧ Spells s' es' := by
  obtain ⟨before, after, rfl⟩ := hin
  obtain ⟨s₁, s₃, rfl, hs, -⟩ := h.exists_append
  obtain ⟨s₁, s₂, rfl, -, hs⟩ := hs.exists_append
  exact ⟨s₂, List.infix_append s₁ s₂ s₃, hs⟩

/-! ### Documents -/

/-- **A document that is read to its end** is made of the pieces of what is read. -/
theorem exists_spells_of_read (h : read s = ⟨es, true⟩) : ∃ s', s' <:+: s ∧ Spells s' es := by
  rw [read.eq_def] at h
  split at h
  · rename_i r
    exact ⟨r, (List.suffix_cons _ r).isInfix, (spells_of_readFrom (Nat.lt_succ_self _) h).1⟩
  · exact ⟨s, List.infix_rfl, (spells_of_readFrom (Nat.lt_succ_self _) h).1⟩

/-- **What the pieces of a document say is read**, if no element ends before it is the innermost. -/
theorem read_of_spells (hs : Spells s es) (hmark : s.head? ≠ some '\uFEFF')
    (hfinal : es.foldlM Event.after [] = some final) : read s = ⟨es, true⟩ := by
  rw [read.eq_def]
  split
  · exact absurd rfl hmark
  · exact readFrom_of_spells hs (Nat.lt_succ_self _) hfinal

end Metasearch.Xml
