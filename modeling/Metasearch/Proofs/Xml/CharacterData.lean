import Metasearch.Proofs.Text.Words
import Metasearch.Proofs.Xml.Open

/-!
# Character data

Within an element that no other stands in there are texts, sections of text that is taken as it is,
and comments. The reader takes the white space from both ends of a text, also where a section or a
comment stands next to it, and leaves that in sections alone.

## Main definitions

* `Chunk`: a text, a section or a comment.
* `AreWritten`: a series of chunks that may be written one after the other.
* `Chunk.data`, `Chunk.kept`: what a chunk stands for, and what is read of it.

## Main results

* `spells_chunks`: the events of character data.
* `Chunk.sheds`: what is lost is white space at the ends of texts.
-/

namespace Metasearch.Xml

open Metasearch.Text

variable {opened final : List (List Char)} {s t raw mark : List Char} {c : Char}

/-! ### Entities within white space -/

theorem isSpace_eq_true_iff : isSpace c = true ↔ c = ' ' ∨ c = '\t' ∨ c = '\n' ∨ c = '\r' := by
  simp [isSpace, or_assoc]

theorem text_isSpace (h : isSpace c = true) : Text.isSpace c = true := by
  rcases isSpace_eq_true_iff.mp h with rfl | rfl | rfl | rfl <;> decide

theorem ne_of_isSpace (h : isSpace c = true) : c ≠ '&' ∧ c ≠ ';' := by
  rcases isSpace_eq_true_iff.mp h with rfl | rfl | rfl | rfl <;> decide

/-- White space in front of a text with entities. -/
theorem unescape?_append_left (hs : ∀ c ∈ s, isSpace c = true) (t : List Char) :
    unescape? (s ++ t) = (unescape? t).map (s ++ ·) := by
  induction s with
  | nil => exact Option.map_id'.symm ▸ rfl
  | cons c s ih =>
    have ih := ih fun d hd => hs d (List.mem_cons_of_mem c hd)
    rw [unescape?] at ih ⊢
    rw [List.cons_append, unescapeFrom?, if_neg (ne_of_isSpace (hs c List.mem_cons_self)).1, ih,
      Option.map_map]
    rfl

theorem unescapeFrom?_of_isSpace (name : Option (List Char)) (ht : ∀ c ∈ t, isSpace c = true) :
    unescapeFrom? name t = if name.isSome then none else some t := by
  induction t generalizing name with
  | nil => rfl
  | cons c t ih =>
    obtain ⟨hamp, hend⟩ := ne_of_isSpace (ht c List.mem_cons_self)
    have ih := fun name => ih name fun d hd => ht d (List.mem_cons_of_mem c hd)
    cases name with
    | none =>
      rw [unescapeFrom?, if_neg hamp, ih]
      rfl
    | some letters =>
      rw [unescapeFrom?, if_neg hend, if_neg hamp, ih]
      rfl

/-- White space behind a text with entities. -/
theorem unescapeFrom?_append_right (name : Option (List Char)) (s : List Char)
    (ht : ∀ c ∈ t, isSpace c = true) :
    unescapeFrom? name (s ++ t) = (unescapeFrom? name s).map (· ++ t) := by
  induction s generalizing name with
  | nil =>
    rw [List.nil_append, unescapeFrom?_of_isSpace name ht, unescapeFrom?]
    cases name <;> rfl
  | cons c s ih =>
    rw [List.cons_append]
    cases name with
    | none =>
      rw [unescapeFrom?, unescapeFrom?, ih, ih]
      split_ifs
      · rfl
      · cases unescapeFrom? none s <;> rfl
    | some letters =>
      rw [unescapeFrom?, unescapeFrom?, ih, ih]
      split_ifs
      · cases entity? letters.reverse <;> cases unescapeFrom? none s <;> rfl
      · rfl
      · rfl

/-! ### Marks that end a chunk -/

/-- A mark is within the text before it, if it starts there and its last character stands in it but
once. -/
theorem infix_of_infix_append {front : List Char} (hc : c ∉ front)
    (h : front ++ [c] <:+: raw ++ front) : front ++ [c] <:+: raw := by
  obtain ⟨before, after, h⟩ := h
  rw [List.append_eq_append_iff] at h
  rcases h with ⟨u, hraw, hfront⟩ | ⟨u, hraw, hfront⟩
  · rw [hraw]
    exact ⟨before, u, rfl⟩
  · rcases List.eq_nil_or_concat u with rfl | ⟨u, d, rfl⟩
    · rw [List.append_nil] at hraw
      rw [← hraw]
      exact (List.suffix_append _ _).isInfix
    · rw [List.concat_eq_append, ← List.append_assoc, ← List.append_assoc] at hraw
      obtain ⟨-, hd⟩ := List.append_inj' hraw rfl
      obtain rfl := List.singleton_inj.mp hd
      exact absurd (by simp [hfront]) hc

/-- A mark is found behind a text that does not hold it. -/
theorem splitAt?_append (front : List Char) (hc : c ∉ front) (h : ¬front ++ [c] <:+: raw)
    (t : List Char) : splitAt? (front ++ [c]) (raw ++ (front ++ [c] ++ t)) = some (raw, t) := by
  obtain ⟨m, mark, hmark⟩ := List.exists_cons_of_ne_nil
    (List.append_ne_nil_of_right_ne_nil front (List.cons_ne_nil c []))
  induction raw with
  | nil =>
    rw [hmark, List.nil_append, List.cons_append, splitAt?, if_pos (by simp)]
    simp
  | cons d raw ih =>
    have hrest : ¬front ++ [c] <:+: raw := fun hin => h (List.infix_cons_iff.mpr (Or.inr hin))
    have hnot : ¬(front ++ [c]).isPrefixOf (d :: (raw ++ (front ++ [c] ++ t))) := by
      intro hprefix
      refine h (infix_of_infix_append hc (List.IsPrefix.isInfix ?_))
      -- a mark that starts here would end before the last character of the next one
      exact List.prefix_of_prefix_length_le (List.isPrefixOf_iff_prefix.mp hprefix)
        ⟨c :: t, by simp⟩ (by simp)
    rw [List.cons_append, splitAt?, if_neg hnot, ih hrest]
    rfl

/-! ### Chunks -/

/-- A part of what stands in an element. -/
inductive Chunk where
  /-- A text with entities. -/
  | run (raw : List Char)
  /-- A section of text that is taken as it is. -/
  | verbatim (raw : List Char)
  /-- A comment. -/
  | comment (raw : List Char)

namespace Chunk

/-- A chunk as it is written. -/
def text : Chunk → List Char
  | run raw => raw
  | verbatim raw => "<![CDATA[".toList ++ (raw ++ "]]>".toList)
  | comment raw => "<!--".toList ++ (raw ++ "-->".toList)

/-- Holds of chunks that end where they are written to. -/
def IsWritten : Chunk → Prop
  | run raw => '<' ∉ raw
  | verbatim raw => ¬"]]>".toList <:+: raw
  | comment raw => ¬"-->".toList <:+: raw

instance : DecidablePred IsWritten
  | run raw => inferInstanceAs (Decidable ('<' ∉ raw))
  | verbatim raw => inferInstanceAs (Decidable (¬"]]>".toList <:+: raw))
  | comment raw => inferInstanceAs (Decidable (¬"-->".toList <:+: raw))

/-- Holds of texts. -/
def isRun : Chunk → Bool
  | run _ => true
  | verbatim _ | comment _ => false

/-- The character data that a chunk stands for. -/
def data : Chunk → List Char
  | run raw => (unescape? raw).getD raw
  | verbatim raw => raw
  | comment _ => []

/-- The character data that is read of a chunk. -/
def kept : Chunk → List Char
  | run raw => (unescape? (trimWhere isSpace raw)).getD (trimWhere isSpace raw)
  | verbatim raw => raw
  | comment _ => []

end Chunk

/-- Holds of chunks that may be written one after the other: no text stands right behind
another. -/
structure AreWritten (chunks : List Chunk) : Prop where
  /-- Each of them ends where it is written to. -/
  isWritten : ∀ k ∈ chunks, k.IsWritten
  /-- There is something between two texts. -/
  chain : chunks.IsChain fun k l => ¬(k.isRun ∧ l.isRun)

namespace AreWritten

theorem tail {k : Chunk} {rest : List Chunk} (h : AreWritten (k :: rest)) : AreWritten rest where
  isWritten l hl := h.isWritten l (List.mem_cons_of_mem k hl)
  chain := h.chain.of_cons

/-- Behind a text there is a bracket. -/
theorem head?_tail {rest : List Chunk} (h : AreWritten (.run raw :: rest)) :
    ∀ c ∈ (rest.flatMap Chunk.text).head?, c = '<' := by
  cases rest with
  | nil => simp
  | cons k rest =>
    have hrun := (List.isChain_cons_cons.mp h.chain).1
    cases k with
    | run raw' => exact absurd ⟨rfl, rfl⟩ hrun
    | verbatim raw' | comment raw' =>
      rintro c ⟨⟩
      rfl

end AreWritten

/-- What is read of chunks. A text of white space alone is skipped. -/
def Content.ofChunks : List Chunk → Content
  | [] => .nil
  | .run raw :: rest =>
    if raw.all isSpace then ofChunks rest else .text (trimWhere isSpace raw) (ofChunks rest)
  | .verbatim raw :: rest => .verbatim raw (ofChunks rest)
  | .comment _ :: rest => ofChunks rest

/-- **What is lost of a chunk is white space at its ends.** -/
theorem Chunk.sheds (k : Chunk) : Sheds k.data k.kept := by
  cases k with
  | verbatim raw => exact .refl raw
  | comment raw => exact .refl []
  | run raw =>
    obtain ⟨l, r, hraw, hl, hr⟩ := exists_trimWhere isSpace raw
    refine ⟨l, r, ?_, fun c hc => text_isSpace (hl c hc), fun c hc => text_isSpace (hr c hc)⟩
    rw [data, kept]
    generalize trimWhere isSpace raw = s at hraw
    have hunescape : unescape? raw = (unescape? s).map fun u => l ++ (u ++ r) := by
      have htail : unescape? (s ++ r) = (unescape? s).map (· ++ r) :=
        unescapeFrom?_append_right none s hr
      rw [hraw, unescape?_append_left hl, htail, Option.map_map]
      rfl
    rw [hunescape]
    cases unescape? s with
    | none => exact hraw
    | some u => rfl

theorem elements_ofChunks (chunks : List Chunk) : (Content.ofChunks chunks).elements = [] := by
  fun_induction Content.ofChunks chunks with
  | case1 => rfl
  | case2 _ _ _ ih | case5 _ _ ih => exact ih
  | case3 _ _ _ ih | case4 _ _ ih => exact ih

/-- A text goes up to the next bracket. -/
theorem isPiece_run (hs : '<' ∉ s) (hne : s ≠ []) (hhead : ∀ c ∈ s.head?, isSpace c = false) :
    IsPiece s (some (.text (dropTailWhile isSpace s))) := by
  obtain ⟨c, r, rfl⟩ := List.exists_cons_of_ne_nil hne
  refine ⟨⟨c, r, rfl, hhead c rfl⟩, fun opened final t hfinal hfits => ?_⟩
  obtain rfl := Option.some.inj hfinal
  obtain ⟨hbefore, hafter⟩ := span_append (s := c :: r) (t := t)
    (fun d hd => beq_eq_false_iff_ne.mpr fun h => hs (h ▸ hd)) (hfits _ rfl)
  have hne : c ≠ '<' := fun h => hs (h ▸ List.mem_cons_self)
  rw [List.cons_append] at hbefore hafter ⊢
  rw [next.eq_2 opened _ fun r' h => hne (List.cons.inj h).1, hbefore, hafter]
  rfl

theorem isPiece_verbatim (h : (Chunk.verbatim raw).IsWritten) :
    IsPiece (Chunk.verbatim raw).text (some (.verbatim raw)) where
  exists_cons := ⟨'<', "![CDATA[".toList ++ (raw ++ "]]>".toList), rfl, rfl⟩
  takes := by
    intro opened final t hfinal _
    obtain rfl := Option.some.inj hfinal
    have hsplit : splitAt? [']', ']', '>'] (raw ++ "]]>".toList ++ t) = some (raw, t) := by
      rw [List.append_assoc]
      exact splitAt?_append [']', ']'] (by decide) h t
    change readUntil [']', ']', '>'] (fun raw => some (.verbatim raw)) opened
      (raw ++ "]]>".toList ++ t) = _
    rw [readUntil, hsplit]

theorem isPiece_comment (h : (Chunk.comment raw).IsWritten) :
    IsPiece (Chunk.comment raw).text none where
  exists_cons := ⟨'<', "!--".toList ++ (raw ++ "-->".toList), rfl, rfl⟩
  takes := by
    intro opened final t hfinal _
    obtain rfl := Option.some.inj hfinal
    have hsplit : splitAt? ['-', '-', '>'] (raw ++ "-->".toList ++ t) = some (raw, t) := by
      rw [List.append_assoc]
      exact splitAt?_append ['-', '-'] (by decide) h t
    change readUntil ['-', '-', '>'] (fun _ => none) opened (raw ++ "-->".toList ++ t) = _
    rw [readUntil, hsplit]

/-- **The events of character data.** -/
theorem spells_chunks {chunks : List Chunk} (h : AreWritten chunks) :
    Spells (chunks.flatMap Chunk.text) (Content.ofChunks chunks).events := by
  induction chunks with
  | nil => exact .nil
  | cons k rest ih =>
    have hk := h.isWritten k List.mem_cons_self
    have ih := ih h.tail
    rw [List.flatMap_cons]
    cases k with
    | verbatim raw =>
      exact .piece (isPiece_verbatim hk) (fits_of_ne_text (by simp) _) ih
    | comment raw =>
      exact .piece (isPiece_comment hk) (fits_of_ne_text (by simp) _) ih
    | run raw =>
      have hbracket : ∀ c ∈ (rest.flatMap Chunk.text).head?, c = '<' := AreWritten.head?_tail h
      refine Spells.of_dropWhile ?_
      change Spells ((raw ++ rest.flatMap Chunk.text).dropWhile isSpace) _
      rw [Content.ofChunks, List.dropWhile_append]
      by_cases hblank : raw.all isSpace
      · have hdrop : (rest.flatMap Chunk.text).dropWhile isSpace = rest.flatMap Chunk.text := by
          cases hrest : rest.flatMap Chunk.text with
          | nil => rfl
          | cons c t =>
            rw [hrest] at hbracket
            rw [hbracket c rfl]
            rfl
        rw [if_pos hblank, if_pos (by simpa using hblank), hdrop]
        exact ih
      · have hne : raw.dropWhile isSpace ≠ [] := fun hnil => hblank (by simpa using hnil)
        have hpiece : IsPiece (raw.dropWhile isSpace) (some (.text (trimWhere isSpace raw))) :=
          isPiece_run (fun hin => hk ((List.dropWhile_suffix _).subset hin)) hne fun c hc => by
            have hhead := List.head?_dropWhile_not isSpace raw
            rw [hc] at hhead
            exact hhead
        rw [if_neg hblank, if_neg (by simpa using hne)]
        exact .piece hpiece (fun _ _ => hbracket) ih

end Metasearch.Xml
