import Metasearch.Encoding.Form
import Metasearch.Proofs.Encoding.Percent
import Metasearch.Proofs.Text.Pieces

/-!
# Reading back what was form-encoded

A space is written as `+` and everything else as percent encoding has it. So with each `+` read as a
space, a name or value is one that was percent-encoded with the space kept, and decoding gives it
back. None of the marks of the format is written inside a name or value, so cutting at the marks
gives back the pairs.

## Main results

* `decodePart_encodePart`, `decode_encode`: decoding undoes encoding.
* `decode_append`: the pairs of a query that was appended to.
* `forall_mem_encode`: the characters of an encoded list of pairs.
-/

namespace Metasearch.Encoding.Form

open Metasearch.Text Metasearch.Number

variable {c : Char} {s : List Char} {pairs : List (List Char × List Char)}

/-! ### What is written -/

theorem isKept_toNat_lt (h : isKept c) : c.toNat < 0x80 := by
  simp only [isKept, Bool.or_eq_true, beq_iff_eq] at h
  rcases h with (((h | rfl) | rfl) | rfl) | rfl
  · exact toNat_lt_of_isAlphanum h
  all_goals decide

/-- The characters of a name or value: what is kept, `+`, and what percent encoding writes. -/
theorem mem_encodePart (h : c ∈ encodePart s) :
    isKept c ∨ c = '+' ∨ c = '%' ∨ (hexValue? c).isSome := by
  obtain ⟨d, -, hd⟩ := List.mem_flatMap.mp h
  rw [encodeChar] at hd
  split at hd
  · exact Or.inr (Or.inl (List.mem_singleton.mp hd))
  · rcases Percent.mem_encode (s := [d]) (by rwa [Percent.encode, List.flatMap_singleton])
      with ⟨-, hk⟩ | hp | hx
    · exact Or.inl hk
    · exact Or.inr (Or.inr (Or.inl hp))
    · exact Or.inr (Or.inr (Or.inr hx))

/-- What holds of all characters that are kept, of the marks and of the digits, holds of all that
is written. -/
theorem forall_mem_encode {p : Char → Bool} (hkept : ∀ c, isKept c → p c = true)
    (hmarks : ∀ c ∈ ['+', '%', '=', '&'], p c = true)
    (hx : ∀ c, (hexValue? c).isSome → p c = true) (pairs : List (List Char × List Char)) :
    ∀ c ∈ encode pairs, p c = true := by
  have hpart : ∀ s, ∀ c ∈ encodePart s, p c = true := by
    intro s c hc
    rcases mem_encodePart hc with h | rfl | rfl | h
    · exact hkept c h
    · exact hmarks _ (by simp)
    · exact hmarks _ (by simp)
    · exact hx c h
  intro c hc
  rcases mem_joinWith hc with ⟨s, hs, hc⟩ | hc
  · obtain ⟨pair, -, rfl⟩ := List.mem_map.mp hs
    rcases List.mem_append.mp hc with hc | hc
    · exact hpart _ c hc
    · rcases List.mem_cons.mp hc with rfl | hc
      · exact hmarks _ (by simp)
      · exact hpart _ c hc
  · exact hmarks c (by simp_all)

theorem ne_of_mem_encodePart (hc : c ∈ encodePart s) : c ≠ '=' ∧ c ≠ '&' := by
  rcases mem_encodePart hc with h | rfl | rfl | h
  · refine ⟨?_, ?_⟩ <;> rintro rfl <;> exact absurd h (by decide)
  · decide
  · decide
  · refine ⟨?_, ?_⟩ <;> rintro rfl <;> exact absurd h (by decide)

/-! ### What is read -/

/-- The set of characters that are kept when `+` counts as a space. -/
def isKeptOrSpace (c : Char) : Bool :=
  isKept c || c == ' '

theorem map_encodeChar (c : Char) :
    ((encodeChar c).map fun c => if c = '+' then ' ' else c) =
      Percent.encodeChar isKeptOrSpace c := by
  rw [encodeChar]
  split
  · rename_i hc
    rw [hc]
    rfl
  · rename_i hc
    have hkeep : isKeptOrSpace c = isKept c := by
      rw [isKeptOrSpace, beq_false_of_ne hc, Bool.or_false]
    have hplus : ∀ d ∈ Percent.encodeChar isKept c, d ≠ '+' := by
      intro d hd
      rcases Percent.mem_encode (s := [c]) (by rwa [Percent.encode, List.flatMap_singleton])
        with ⟨-, hk⟩ | rfl | hx
      · rintro rfl
        exact absurd hk (by decide)
      · decide
      · rintro rfl
        exact absurd hx (by decide)
    rw [Percent.encodeChar, Percent.encodeChar, hkeep, ← Percent.encodeChar]
    exact (List.map_congr_left fun d hd => if_neg (hplus d hd)).trans (List.map_id _)

/-- **A name or value is read back.** -/
theorem decodePart_encodePart (s : List Char) : decodePart (encodePart s) = s := by
  have hmap : ((encodePart s).map fun c => if c = '+' then ' ' else c) =
      Percent.encode isKeptOrSpace s := by
    rw [encodePart, List.map_flatMap, Percent.encode]
    exact congrArg (fun f => s.flatMap f) (funext map_encodeChar)
  rw [decodePart, hmap, Percent.decode_encode_of_escaped (by decide), Utf8.decodeLenient_encode]

theorem decodePair_encodePair (pair : List Char × List Char) :
    decodePair (encodePair pair) = pair := by
  have hfree : ∀ c ∈ encodePart pair.1, (c == '=') = false :=
    fun c hc => beq_false_of_ne (ne_of_mem_encodePart hc).1
  rw [decodePair, encodePair, beforeFirst_append hfree rfl, afterFirst_append hfree rfl,
    Option.getD_some, decodePart_encodePart, decodePart_encodePart]

theorem encodePair_ne_nil (pair : List Char × List Char) : encodePair pair ≠ [] :=
  List.append_ne_nil_of_right_ne_nil _ (List.cons_ne_nil _ _)

/-- **Decoding undoes encoding.** -/
theorem decode_encode (pairs : List (List Char × List Char)) : decode (encode pairs) = pairs := by
  cases pairs with
  | nil => rfl
  | cons pair rest =>
    have hfree : ∀ s ∈ (pair :: rest).map encodePair, ∀ c ∈ s, (c == '&') = false := by
      intro s hs c hc
      obtain ⟨q, -, rfl⟩ := List.mem_map.mp hs
      refine beq_false_of_ne ?_
      rcases List.mem_append.mp hc with hc | hc
      · exact (ne_of_mem_encodePart hc).2
      · rcases List.mem_cons.mp hc with rfl | hc
        · decide
        · exact (ne_of_mem_encodePart hc).2
    have hfull : ∀ s ∈ (pair :: rest).map encodePair, (!s.isEmpty) = true := by
      intro s hs
      obtain ⟨q, -, rfl⟩ := List.mem_map.mp hs
      rw [List.isEmpty_eq_false_iff.mpr (encodePair_ne_nil q)]
      rfl
    have hne : (pair :: rest).map encodePair ≠ [] := List.cons_ne_nil _ _
    rw [decode, encode, splitWhere_joinWith (p := (· == '&')) hne rfl hfree,
      List.filter_eq_self.mpr hfull, List.map_map]
    exact (List.map_congr_left fun q _ => decodePair_encodePair q).trans (List.map_id _)

theorem encode_ne_nil (h : pairs ≠ []) : encode pairs ≠ [] := by
  intro hnil
  have := decode_encode pairs
  rw [hnil] at this
  exact h this.symm

/-- **Appended pairs come after those that are there, and change none of them.** -/
theorem decode_append (query : Option (List Char)) (pairs : List (List Char × List Char)) :
    decode ((append query pairs).getD []) = decode (query.getD []) ++ pairs := by
  cases pairs with
  | nil => exact (List.append_nil _).symm
  | cons pair rest =>
    -- a query that is absent or empty has no pairs, and no mark goes behind it
    rcases query with - | (- | ⟨c, r⟩)
    · exact decode_encode (pair :: rest)
    · exact decode_encode (pair :: rest)
    · have happend : append (some (c :: r)) (pair :: rest) =
          some (c :: r ++ '&' :: encode (pair :: rest)) := rfl
      have hrest := decode_encode (pair :: rest)
      rw [decode] at hrest
      rw [happend, Option.getD_some, Option.getD_some, decode, decode,
        splitWhere_append_cons _ rfl, List.filter_append, List.map_append, hrest]

end Metasearch.Encoding.Form
