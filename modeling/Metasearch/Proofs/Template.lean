import Metasearch.Proofs.Encoding.Form
import Metasearch.Template
import Metasearch.Url.Printer

/-!
# Filling a template

Replacing placeholders is local. A placeholder is a pair of braces with a known name between them,
so a text without one is left as it is, and at a character that stands in no name the text falls
into two parts that are filled apart from each other. What is filled is a URL, of which only the
query is touched afterwards: the parameters go behind the pairs that are there, in the order of
their names.

## Main definitions

* `HasPlaceholder`: a text in which something is replaced.
* `Template.placeholderNames`: the names that stand for something.
* `Template.IsOrdered`: parameters in the order of their names, as every template has them.

## Main results

* `fill_eq_self`, `fill_append`.
* `Template.isOrdered_withParams`.
* `Url.queryPairs_appendPairs`, `Template.render_eq_ok_iff`.
-/

namespace Metasearch

open Metasearch.Text Metasearch.Number Metasearch.Encoding

/-! ### One brace at a time -/

section Fill

variable {value : List Char → Option (List Char)} {c d : Char} {a b r rest name v : List Char}

theorem fill_cons_of_ne (hc : c ≠ '\x7b') : fill value (c :: r) = c :: fill value r := by
  rw [fill, if_neg hc]

/-- A brace that starts no placeholder stays. -/
theorem fill_brace_of_none
    (h : '\x7d' ∈ r → value (beforeFirst (· == '\x7d') r) = none) :
    fill value ('\x7b' :: r) = '\x7b' :: fill value r := by
  rw [fill, if_pos rfl]
  split
  · rename_i rest hrest
    obtain ⟨e, he, hr⟩ := exists_of_afterFirst hrest
    obtain rfl := eq_of_beq he
    rw [h (hr ▸ List.mem_append_right _ List.mem_cons_self)]
  · rfl

/-- What stands between braces and is no name stays. -/
theorem fill_unknown (hname : '\x7d' ∉ name) (hv : value name = none) (rest : List Char) :
    fill value ('\x7b' :: (name ++ '\x7d' :: rest)) =
      '\x7b' :: fill value (name ++ '\x7d' :: rest) :=
  fill_brace_of_none fun _ => by rw [beforeFirst_closing hname, hv]

/-- A placeholder is replaced. -/
theorem fill_placeholder (hname : '\x7d' ∉ name) (hv : value name = some v) (rest : List Char) :
    fill value ('\x7b' :: (name ++ '\x7d' :: rest)) = v ++ fill value rest := by
  have hafter := afterFirst_closing hname rest
  rw [fill, if_pos rfl]
  split
  · rename_i rest' hrest
    obtain rfl := Option.some.inj (hafter.symm.trans hrest)
    rw [beforeFirst_closing hname, hv]
  · rename_i hnone
    exact absurd (hafter.symm.trans hnone) (Option.some_ne_none rest)

/-! ### Placeholders -/

/-- Holds of a text in which something is replaced. -/
def HasPlaceholder (value : List Char → Option (List Char)) (s : List Char) : Prop :=
  ∃ name, (value name).isSome ∧ '\x7b' :: name ++ ['\x7d'] <:+: s

theorem HasPlaceholder.cons (h : HasPlaceholder value r) (c : Char) :
    HasPlaceholder value (c :: r) := by
  obtain ⟨name, hvalue, hname⟩ := h
  exact ⟨name, hvalue, hname.trans (List.suffix_cons c r).isInfix⟩

/-- What stands between the braces at the start of a text stands in it with its braces. -/
theorem infix_braces (name rest : List Char) :
    '\x7b' :: name ++ ['\x7d'] <:+: '\x7b' :: (name ++ '\x7d' :: rest) :=
  ⟨[], rest, by simp⟩

/-- **A text without placeholders is left as it is.** -/
theorem fill_eq_self (h : ¬HasPlaceholder value a) : fill value a = a := by
  induction a using spans_induction '\x7b' '\x7d' with
  | nil => rw [fill]
  | cons c r hc ih => rw [fill_cons_of_ne hc, ih fun hr => h (hr.cons c)]
  | unclosed r hr ih => rw [fill_brace_of_none (absurd · hr), ih fun h' => h (h'.cons _)]
  | closed name rest hname ih _ =>
    have hnone : value name = none := by
      by_contra hsome
      exact h ⟨name, Option.isSome_iff_ne_none.mpr hsome, infix_braces name rest⟩
    rw [fill_unknown hname hnone, ih fun h' => h (h'.cons _)]

/-- **A text is filled on either side of a character that stands in no name.** That may be the brace
that starts a placeholder. -/
theorem fill_append (hname : ∀ name, d ∈ name → value name = none) (hclose : d ≠ '\x7d')
    (a b : List Char) : fill value (a ++ d :: b) = fill value a ++ fill value (d :: b) := by
  induction a using spans_induction '\x7b' '\x7d' with
  | nil => rw [List.nil_append, fill.eq_def value [], List.nil_append]
  | cons c r hc ih => rw [List.cons_append, fill_cons_of_ne hc, fill_cons_of_ne hc, ih]; rfl
  | unclosed r hr ih =>
    -- a name that reached over the character would hold it
    have hfree : ∀ c ∈ r, (!c == '\x7d') = true := by
      intro c hc
      rw [Bool.not_eq_true', beq_eq_false_iff_ne]
      exact ne_of_mem_of_not_mem hc hr
    have hover : d ∈ beforeFirst (· == '\x7d') (r ++ d :: b) := by
      rw [beforeFirst, List.takeWhile_append_of_pos hfree, List.takeWhile_cons,
        beq_false_of_ne hclose]
      exact List.mem_append_right r List.mem_cons_self
    rw [List.cons_append, fill_brace_of_none fun _ => hname _ hover,
      fill_brace_of_none (absurd · hr), ih]
    rfl
  | closed name rest hfree ih ihrest =>
    have htext : '\x7b' :: (name ++ '\x7d' :: rest) ++ d :: b =
        '\x7b' :: (name ++ '\x7d' :: (rest ++ d :: b)) := by simp
    rw [htext]
    cases hv : value name with
    | none =>
      rw [List.append_assoc, List.cons_append] at ih
      rw [fill_unknown hfree hv, fill_unknown hfree hv, ih]
      rfl
    | some v => rw [fill_placeholder hfree hv, fill_placeholder hfree hv, ihrest, List.append_assoc]

theorem fill_append_cons (hname : ∀ name, d ∈ name → value name = none) (hopen : d ≠ '\x7b')
    (hclose : d ≠ '\x7d') (a b : List Char) :
    fill value (a ++ d :: b) = fill value a ++ d :: fill value b := by
  rw [fill_append hname hclose, fill_cons_of_ne hopen]

end Fill

/-! ### Names of placeholders -/

/-- The names that stand for something. -/
def Template.placeholderNames : List (List Char) :=
  ["query".toList, "page".toList, "offset".toList, "language".toList]

theorem Text.eq_toList_of_ofList {name : List Char} {s : String} (h : String.ofList name = s) :
    name = s.toList := by
  rw [← h, String.toList_ofList]

theorem Template.mem_placeholderNames {q : Query} {terms name : List Char}
    (h : (placeholder q terms name).isSome) : name ∈ placeholderNames := by
  rw [placeholder] at h
  split at h <;> rename_i heq
  · rw [eq_toList_of_ofList heq]; decide
  · rw [eq_toList_of_ofList heq]; decide
  · rw [eq_toList_of_ofList heq]; decide
  · rw [eq_toList_of_ofList heq]; decide
  · exact absurd h Bool.false_ne_true

theorem Template.placeholder_eq_none_of_mem {q : Query} {terms name : List Char} {c : Char}
    (hc : ∀ name ∈ placeholderNames, c ∉ name) (h : c ∈ name) :
    placeholder q terms name = none := by
  by_contra hsome
  exact hc name (mem_placeholderNames (Option.isSome_iff_ne_none.mpr hsome)) h

/-- A slash stands in no name. -/
theorem Template.placeholder_eq_none {q : Query} {terms name : List Char} (h : '/' ∈ name) :
    placeholder q terms name = none :=
  placeholder_eq_none_of_mem (by decide) h

/-! ### Parameters -/

namespace Template

variable {t : Template} {q : Query} {u v : Url}

/-- Parameters in the order of their names, each name once. -/
def IsOrdered (t : Template) : Prop :=
  t.params.Pairwise fun p p' => p.1 < p'.1

instance : DecidablePred IsOrdered :=
  fun t => inferInstanceAs (Decidable (t.params.Pairwise fun p p' => p.1 < p'.1))

theorem mem_insertParam {name value : String} {l : List (String × String)} {p : String × String}
    (h : p ∈ insertParam name value l) : p = (name, value) ∨ p ∈ l := by
  induction l with
  | nil => exact Or.inl (List.mem_singleton.mp h)
  | cons e r ih =>
    rw [insertParam] at h
    split_ifs at h with hlt heq
    · exact List.mem_cons.mp h
    · exact (List.mem_cons.mp h).imp_right (List.mem_cons_of_mem e)
    · rcases List.mem_cons.mp h with rfl | h
      · exact Or.inr List.mem_cons_self
      · exact (ih h).imp_right (List.mem_cons_of_mem e)

theorem pairwise_insertParam {l : List (String × String)} (name value : String)
    (h : l.Pairwise fun p p' => p.1 < p'.1) :
    (insertParam name value l).Pairwise fun p p' => p.1 < p'.1 := by
  induction l with
  | nil => exact List.pairwise_singleton _ _
  | cons e r ih =>
    obtain ⟨hfirst, hrest⟩ := List.pairwise_cons.mp h
    rw [insertParam]
    split_ifs with hlt heq
    · refine List.pairwise_cons.mpr ⟨fun p hp => ?_, h⟩
      rcases List.mem_cons.mp hp with rfl | hp
      · exact hlt
      · exact String.lt_trans hlt (hfirst p hp)
    · refine List.pairwise_cons.mpr ⟨fun p hp => ?_, hrest⟩
      rw [heq]
      exact hfirst p hp
    · refine List.pairwise_cons.mpr ⟨fun p hp => ?_, ih hrest⟩
      rcases mem_insertParam hp with rfl | hp
      · by_contra hge
        exact heq (String.le_antisymm (String.not_lt.mp hge) (String.not_lt.mp hlt))
      · exact hfirst p hp

/-- **However a template is built, its parameters are in order.** -/
theorem isOrdered_withParams (h : t.IsOrdered) (params : List (String × String)) :
    (t.withParams params).IsOrdered := by
  rw [withParams]
  induction params generalizing t with
  | nil => exact h
  | cons p rest ih => exact ih (pairwise_insertParam p.1 p.2 h)

end Template

/-! ### The query -/

/-- **Pairs are appended to those that are there.** -/
theorem Url.queryPairs_appendPairs (u : Url) (pairs : List (List Char × List Char)) :
    (u.appendPairs pairs).queryPairs = u.queryPairs ++ pairs :=
  Form.decode_append u.query pairs

theorem Template.render_eq_ok_iff {t : Template} {q : Query} {v : Url} :
    t.render q = .ok v ↔
      ∃ u, Url.parse (t.filledUrl q) = .ok u ∧ u.appendPairs (t.filledParams q) = v := by
  rw [render]
  cases Url.parse (t.filledUrl q) <;> simp

end Metasearch
