import Metasearch.Proofs.Encoding.Form
import Metasearch.Proofs.Text.Numerals
import Metasearch.Proofs.Url.Spelling

/-!
# The query of a URL

Under any scheme the query is what follows the first question mark in front of the number sign.
Escaping keeps the marks between pairs and writes no others, so a query has as many pairs as its
text has pieces that are not empty.

## Main results

* `Url.exists_of_parse`, `Url.query_of_parse`: what the marks cut off.
* `Url.length_queryPairs_eq`: other numerals in a text make no more pairs, and no fewer.
-/

namespace Metasearch

open Metasearch.Text Metasearch.Number Metasearch.Encoding

/-! ### Pieces of a query -/

/-- Escaping makes no marks, and removes none. -/
theorem Encoding.Percent.splitWhere_encode {keep : Char → Bool} {mark : Char}
    (hmark : keep mark = true) (hpercent : mark ≠ '%') (hdigit : hexValue? mark = none)
    (s : List Char) :
    splitWhere (· == mark) (encode keep s) = (splitWhere (· == mark) s).map (encode keep) := by
  induction s with
  | nil => rfl
  | cons c r ih =>
    obtain ⟨piece, more, hr⟩ := List.exists_cons_of_ne_nil (splitWhere_ne_nil (· == mark) r)
    rw [encode_cons]
    by_cases hc : c = mark
    · subst hc
      rw [encodeChar_of_keep hmark, List.singleton_append,
        splitWhere_cons (p := (· == c)) (beq_self_eq_true c),
        splitWhere_cons (p := (· == c)) (beq_self_eq_true c), ih]
      rfl
    · have hfree : ∀ d ∈ encodeChar keep c, (d == mark) = false := by
        intro d hd
        refine beq_false_of_ne ?_
        rintro rfl
        rcases mem_encode (s := [c]) (by rwa [encode, List.flatMap_singleton]) with
          ⟨hmem, -⟩ | h | h
        · exact hc (List.mem_singleton.mp hmem).symm
        · exact hpercent h
        · rw [hdigit] at h
          exact absurd h Bool.false_ne_true
      have hfirst : splitWhere (· == mark) (encodeChar keep c) = [] ++ [encodeChar keep c] :=
        splitWhere_eq_singleton hfree
      rw [hr, List.map_cons] at ih
      rw [splitWhere_append_of hfirst ih, splitWhere, beq_false_of_ne hc, hr]
      simp only [Bool.false_eq_true, if_false, List.map_cons, encode_cons, List.nil_append]

theorem Encoding.Percent.isEmpty_encode (keep : Char → Bool) (s : List Char) :
    (encode keep s).isEmpty = s.isEmpty := by
  cases s with
  | nil => rfl
  | cons c r =>
    refine List.isEmpty_eq_false_iff.mpr fun hnil => ?_
    rw [encode_cons, List.append_eq_nil_iff] at hnil
    have hchar := hnil.1
    cases hk : keep c with
    | true =>
      rw [encodeChar_of_keep hk] at hchar
      exact List.cons_ne_nil c [] hchar
    | false =>
      obtain ⟨b, more, hc, -⟩ := Utf8.readChar_encodeChar c []
      rw [encodeChar_of_not_keep hk, hc] at hchar
      exact List.cons_ne_nil _ _ hchar

theorem Encoding.Form.length_decode (s : List Char) :
    (decode s).length = ((splitWhere (· == '&') s).filter fun piece => !piece.isEmpty).length :=
  List.length_map _

theorem Encoding.Form.mem_of_mem_append {query : Option (List Char)}
    {pairs : List (List Char × List Char)} {q : List Char} {c : Char}
    (hq : q ∈ append query pairs) (hc : c ∈ q) :
    (∃ s ∈ query, c ∈ s) ∨ c = '&' ∨ c ∈ encode pairs := by
  cases pairs with
  | nil => exact Or.inl ⟨q, hq, hc⟩
  | cons pair rest =>
    rcases query with - | (- | ⟨d, r⟩)
    · exact Or.inr (Or.inr (Option.some.inj hq ▸ hc))
    · exact Or.inr (Or.inr (Option.some.inj hq ▸ hc))
    · obtain rfl : d :: r ++ '&' :: encode (pair :: rest) = q := Option.some.inj hq
      rcases List.mem_append.mp hc with hc | hc
      · exact Or.inl ⟨_, rfl, hc⟩
      · exact Or.inr (List.mem_cons.mp hc)

namespace Url

variable {scheme s t : List Char} {q f : Option (List Char)} {c : Char} {u v : Url}

/-! ### What is read as the query -/

theorem query_of_withAuthority (h : withAuthority scheme s q f = .ok u) :
    u.query = keepQuery scheme q := by
  rw [withAuthority] at h
  simp only [bind, Except.bind] at h
  split at h
  · cases h
  · obtain rfl := Except.ok.inj h
    rfl

theorem query_of_parseFile (h : parseFile none s q f = .ok u) :
    u.query = keepQuery "file".toList q := by
  rw [parseFile.eq_def] at h
  simp only [bind, Except.bind, pure, Except.pure] at h
  -- whatever branch is taken, the query is written into the URL
  repeat' split at h
  all_goals cases h
  all_goals rfl

theorem query_of_parseWithScheme (h : parseWithScheme none scheme s q f = .ok u) :
    u.query = keepQuery scheme q := by
  rw [parseWithScheme] at h
  split at h
  · rename_i hfile
    rw [query_of_parseFile h, ← eq_of_beq hfile, String.toList_ofList]
  · split at h
    · exact query_of_withAuthority h
    · split at h
      · exact query_of_withAuthority h
      · obtain rfl := Except.ok.inj h
        rfl
      · obtain rfl := Except.ok.inj h
        rfl

theorem exists_of_splitScheme? (h : splitScheme? s = some (scheme, t)) :
    ∃ front, s = front ++ ':' :: t ∧ ∀ c ∈ front, isSchemeChar c = true := by
  rw [splitScheme?.eq_def] at h
  split at h
  · cases h
  · rename_i c r
    split_ifs at h
    split at h
    · rename_i rest hrest
      obtain ⟨-, rfl⟩ := Prod.mk.inj (Option.some.inj h)
      refine ⟨(c :: r).takeWhile isSchemeChar, ?_, fun d hd => List.mem_takeWhile_imp hd⟩
      rw [← hrest, List.takeWhile_append_dropWhile]
    · cases h

/-- Neither of the marks stands in a scheme. -/
theorem ne_of_isSchemeChar (h : isSchemeChar c = true) : c ≠ '?' ∧ c ≠ '#' := by
  constructor <;> rintro rfl <;> exact absurd h (by decide)

theorem of_mem_cut {mark : Char} (hc : c ∈ (cut mark s).1) : c ≠ mark ∧ c ∈ s :=
  ⟨ne_of_beq_false (not_of_mem_beforeFirst (p := (· == mark)) hc),
    (List.takeWhile_prefix _).subset hc⟩

/-- A URL is read from its scheme, from a text without marks, and from what the marks cut off. -/
theorem exists_of_parse (h : parse s = .ok u) : ∃ front body,
    (∀ c ∈ front, isSchemeChar c = true) ∧ (∀ c ∈ body, c ≠ '?' ∧ c ≠ '#') ∧
      parseWithScheme none (lower front) body (cut '?' (cut '#' (strip s)).1).2
        (cut '#' (strip s)).2 = .ok u := by
  rw [parse, parseFrom] at h
  dsimp only at h
  split at h
  · rename_i scheme rest hscheme
    obtain ⟨front, hs, hfront⟩ := exists_of_splitScheme? hscheme
    rw [hs, splitScheme?_of_forall hfront] at hscheme
    split_ifs at hscheme with halpha
    obtain ⟨rfl, -⟩ := Prod.mk.inj (Option.some.inj hscheme)
    have hmarks : ∀ c ∈ front ++ [':'], c ≠ '?' ∧ c ≠ '#' := by
      intro c hc
      rcases List.mem_append.mp hc with hc | hc
      · exact ne_of_isSchemeChar (hfront c hc)
      · rw [List.mem_singleton.mp hc]
        decide
    have hfragment : cut '#' (strip s) = (front ++ ':' :: (cut '#' rest).1, (cut '#' rest).2) := by
      rw [hs, List.append_cons, cut_append fun c hc => (hmarks c hc).2, ← List.append_cons]
    have hquery : (cut '?' (front ++ ':' :: (cut '#' rest).1)).2 =
        (cut '?' (cut '#' rest).1).2 := by
      rw [List.append_cons, cut_append fun c hc => (hmarks c hc).1]
    rw [hfragment] at h ⊢
    dsimp only at h ⊢
    rw [splitScheme?_of_forall hfront, if_pos halpha, Option.elim_some] at h
    rw [hquery]
    refine ⟨front, (cut '?' (cut '#' rest).1).1, hfront, fun c hc => ?_, h⟩
    obtain ⟨hquestion, hc⟩ := of_mem_cut hc
    exact ⟨hquestion, (of_mem_cut hc).1⟩
  · cases h

/-- **The query is what the marks cut off**, escaped as the scheme has it. -/
theorem query_of_parse (h : parse s = .ok u) :
    u.query = keepQuery u.scheme (cut '?' (cut '#' (strip s)).1).2 := by
  obtain ⟨front, body, -, -, hbody⟩ := exists_of_parse h
  rw [query_of_parseWithScheme hbody, scheme_of_parseWithScheme hbody]

/-- A web URL is one also with more pairs. -/
theorem IsWebForm.appendPairs (h : u.IsWebForm) (pairs : List (List Char × List Char)) :
    (u.appendPairs pairs).IsWebForm where
  scheme := h.scheme
  authority := h.authority
  path := h.path
  query q hq c hc := by
    rcases Form.mem_of_mem_append hq hc with ⟨s, hs, hc⟩ | rfl | hc
    · exact h.query s hs c hc
    · decide
    · exact keepInQuery_of_mem_encode hc
  fragment := h.fragment

/-! ### Numerals in a URL -/

theorem length_queryPairs_of_parse (h : parse s = .ok u) : u.queryPairs.length =
    ((splitWhere (· == '&') ((cut '?' (cut '#' (strip s)).1).2.getD [])).filter
      fun piece => !piece.isEmpty).length := by
  rw [queryPairs, Form.length_decode, query_of_parse h, keepQuery]
  cases (cut '?' (cut '#' (strip s)).1).2 with
  | none => rfl
  | some raw =>
    have hkeep : ∀ special, keepInQuery special '&' = true := by decide
    rw [Option.map_some, Option.getD_some, Option.getD_some,
      Percent.splitWhere_encode (hkeep _) (by decide) (by decide), List.filter_map, List.length_map]
    simp only [Function.comp_def, Percent.isEmpty_encode]

/-- **Other numerals make no more pairs, and no fewer.** -/
theorem length_queryPairs_eq (hst : Renumbered s t) (hs : parse s = .ok u) (ht : parse t = .ok v) :
    u.queryPairs.length = v.queryPairs.length := by
  have hdigit : ∀ {p : Char → Bool},
      (∀ n < 0x80, (!(Char.ofNat n).isDigit || !p (Char.ofNat n)) = true) →
        ∀ c : Char, c.isDigit = true → p c = false := fun {p} hp c hc => by
    simpa using imp_of_ascii (p := Char.isDigit) (q := fun c => !p c) hp (toNat_lt_of_isDigit hc) hc
  have hstrip : Renumbered (strip s) (strip t) :=
    (hst.trimWhere (hdigit (by decide))).filter fun c hc => by
      rw [hdigit (p := isSkipped) (by decide) c hc]
      rfl
  have hfront := hstrip.beforeFirst (p := (· == '#')) (hdigit (by decide))
  have hquery := hfront.afterFirst (p := (· == '?')) (hdigit (by decide))
  rw [length_queryPairs_of_parse hs, length_queryPairs_of_parse ht]
  exact Renumbered.length_filter_eq
    ((Renumbered.getD_nil hquery).splitWhere (p := (· == '&')) (hdigit (by decide)))

end Url
end Metasearch
