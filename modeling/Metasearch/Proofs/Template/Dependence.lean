import Metasearch.Proofs.Number.Decimal
import Metasearch.Proofs.Template
import Metasearch.Proofs.Text.Numerals

/-!
# What a template takes from a query

A template sees a query through the placeholders that stand in it. Where two queries give the same
values to these, they give the same URL; where the values are numerals, the texts that are filled
differ in these numerals alone.

## Main definitions

* `Template.Mentions`, `Template.IsPageless`: what stands in a template.

## Main results

* `fill_rel`: texts that are filled with related values.
* `Template.render_congr`, `Template.render_withPage`.
* `Template.renumbered_filledUrl`.
-/

namespace Metasearch

open Metasearch.Text Metasearch.Number Metasearch.Encoding

variable {value value' : List Char → Option (List Char)} {s : List Char}

/-- **Related values give related texts.** Only the placeholders that stand in the text count. -/
theorem fill_rel {R : List Char → List Char → Prop} (hnil : R [] [])
    (hcons : ∀ c {a b}, R a b → R (c :: a) (c :: b))
    (happend : ∀ {v w a b}, R v w → R a b → R (v ++ a) (w ++ b))
    (hvalue : ∀ name, '\x7b' :: name ++ ['\x7d'] <:+: s → Option.Rel R (value name) (value' name)) :
    R (fill value s) (fill value' s) := by
  induction s using spans_induction '\x7b' '\x7d' with
  | nil => rwa [fill, fill]
  | cons c r hc ih =>
    rw [fill_cons_of_ne hc, fill_cons_of_ne hc]
    exact hcons c (ih fun name h => hvalue name (h.trans (List.suffix_cons c r).isInfix))
  | unclosed r hr ih =>
    rw [fill_brace_of_none (absurd · hr), fill_brace_of_none (absurd · hr)]
    exact hcons _ (ih fun name h => hvalue name (h.trans (List.suffix_cons _ r).isInfix))
  | closed name rest hname ih ihrest =>
    have hrest : rest <:+: '\x7b' :: (name ++ '\x7d' :: rest) :=
      ⟨'\x7b' :: (name ++ ['\x7d']), [], by simp⟩
    have hrel := hvalue name (infix_braces name rest)
    generalize hv : value name = v at hrel
    generalize hv' : value' name = v' at hrel
    cases hrel with
    | none =>
      rw [fill_unknown hname hv, fill_unknown hname hv']
      exact hcons _ (ih fun name h => hvalue name (h.trans (List.suffix_cons _ _).isInfix))
    | some hvv' =>
      rw [fill_placeholder hname hv, fill_placeholder hname hv']
      exact happend hvv' (ihrest fun name h => hvalue name (h.trans hrest))

namespace Template

variable {t : Template} {q q' : Query} {terms name : List Char}

/-! ### What stands in a template -/

/-- Holds if a placeholder stands in the URL, or in the value of a parameter. -/
def Mentions (t : Template) (name : List Char) : Prop :=
  ∃ s ∈ t.url :: t.params.map (·.2), '\x7b' :: name ++ ['\x7d'] <:+: s.toList

instance : Decidable (t.Mentions name) :=
  inferInstanceAs (Decidable (∃ s ∈ t.url :: t.params.map (·.2),
    '\x7b' :: name ++ ['\x7d'] <:+: s.toList))

/-- Holds if the template does not look at the page. -/
def IsPageless (t : Template) : Prop :=
  ¬t.Mentions "page".toList ∧ ¬t.Mentions "offset".toList

instance : DecidablePred IsPageless :=
  fun t => inferInstanceAs (Decidable (¬t.Mentions "page".toList ∧ ¬t.Mentions "offset".toList))

/-- **Two queries that agree on what stands in a template are asked by one URL.** -/
theorem render_congr (hterms : q.terms = q'.terms)
    (h : ∀ terms name, t.Mentions name → placeholder q terms name = placeholder q' terms name) :
    t.render q = t.render q' := by
  have hfill : ∀ terms, ∀ s ∈ t.url :: t.params.map (·.2),
      fill (placeholder q terms) s.toList = fill (placeholder q' terms) s.toList := by
    intro terms s hs
    refine fill_rel (R := Eq) rfl (fun c _ _ h => by rw [h]) (fun h h' => by rw [h, h']) ?_
    intro name hname
    rw [h terms name ⟨s, hs, hname⟩]
    cases placeholder q' terms name with
    | none => exact Option.Rel.none
    | some v => exact Option.Rel.some rfl
  have hurl : t.filledUrl q = t.filledUrl q' := by
    rw [filledUrl, filledUrl, ← hterms]
    exact hfill _ _ List.mem_cons_self
  have hparams : t.filledParams q = t.filledParams q' := by
    rw [filledParams, filledParams, ← hterms]
    exact List.map_congr_left fun p hp => Prod.ext rfl
      (hfill _ _ (List.mem_cons_of_mem _ (List.mem_map_of_mem hp)))
  rw [render, render, hurl, hparams]

/-! ### Pages -/

theorem placeholder_withPage (hpage : name ≠ "page".toList) (hoffset : name ≠ "offset".toList)
    (p : Nat) : placeholder { q with page := p } terms name = placeholder q terms name := by
  rw [placeholder, placeholder]
  split
  · rfl
  · exact absurd (eq_toList_of_ofList ‹_›) hpage
  · exact absurd (eq_toList_of_ofList ‹_›) hoffset
  · rfl
  · rfl

/-- What does not look at the page is the same on every page. -/
theorem render_withPage (h : t.IsPageless) (q : Query) (p : Nat) :
    t.render { q with page := p } = t.render q :=
  render_congr rfl fun _ _ hname => placeholder_withPage (fun hpage => h.1 (hpage ▸ hname))
    (fun hoffset => h.2 (hoffset ▸ hname)) p

theorem isNumeral_numeral (n : Nat) : IsNumeral (numeral n) :=
  ⟨numeral_ne_nil n, fun _ => isDigit_of_mem_numeral⟩

/-- On another page other numerals are filled in, and nothing else. -/
theorem renumbered_filledUrl (t : Template) (q : Query) (p p' : Nat) :
    Renumbered (t.filledUrl { q with page := p }) (t.filledUrl { q with page := p' }) := by
  have hnumeral : ∀ n m, Renumbered (numeral n) (numeral m) := by
    intro n m
    have h := Renumbered.nil.numeral (isNumeral_numeral n) (isNumeral_numeral m)
    rwa [List.append_nil, List.append_nil] at h
  refine fill_rel Renumbered.nil (fun c _ _ h => h.cons c) Renumbered.append fun name _ => ?_
  rw [placeholder, placeholder]
  split
  · exact Option.Rel.some (Renumbered.refl _)
  · exact Option.Rel.some (hnumeral _ _)
  · exact Option.Rel.some (hnumeral _ _)
  · exact Option.Rel.some (Renumbered.refl _)
  · exact Option.Rel.none

end Template
end Metasearch
