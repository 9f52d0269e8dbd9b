import Metasearch.Proofs.Template

/-!
# Placeholders are replaced at once

Two laws say what it means to replace all placeholders at once: a text without one stays, and around
one the text is filled on either side, with the value as it is between. No name holds a brace, so
the brace that starts a placeholder ends whatever was begun before it, and the second law holds
whatever stands on either side. Every text comes apart by these laws, so nothing else satisfies them.

## Main definitions

* `IsSubstitution`: the two laws.

## Main results

* `fill_append_placeholder`: a placeholder between any two texts.
* `isSubstitution_iff_eq_fill`: filling, and only filling, satisfies the laws.
-/

namespace Metasearch

open Metasearch.Text

variable {value : List Char → Option (List Char)} {f : List Char → List Char}
  {name v : List Char}

/-- Replaces every placeholder of a text by its value, all at once. -/
structure IsSubstitution (value : List Char → Option (List Char))
    (f : List Char → List Char) : Prop where
  /-- A text without placeholders stays as it is. -/
  free : ∀ s, ¬HasPlaceholder value s → f s = s
  /-- The value goes in as it is, and what stands on either side is replaced apart from it. -/
  placeholder : ∀ a name v b, value name = some v →
    f (a ++ ('\x7b' :: name ++ ['\x7d']) ++ b) = f a ++ v ++ f b

/-- **A placeholder is replaced whatever stands around it.** -/
theorem fill_append_placeholder (hopen : ∀ name, '\x7b' ∈ name → value name = none)
    (hclose : '\x7d' ∉ name) (hv : value name = some v) (a b : List Char) :
    fill value (a ++ ('\x7b' :: name ++ ['\x7d']) ++ b) = fill value a ++ v ++ fill value b := by
  have htext : a ++ ('\x7b' :: name ++ ['\x7d']) ++ b = a ++ '\x7b' :: (name ++ '\x7d' :: b) := by
    simp
  rw [htext, fill_append hopen (by decide), fill_placeholder hclose hv, List.append_assoc]

/-- There is one way to replace all placeholders. -/
theorem IsSubstitution.eq {g : List Char → List Char} (hf : IsSubstitution value f)
    (hg : IsSubstitution value g) : f = g := by
  funext s
  induction hn : s.length using Nat.strong_induction_on generalizing s with
  | _ n ih =>
  by_cases hs : HasPlaceholder value s
  · obtain ⟨name, hname, a, b, rfl⟩ := hs
    obtain ⟨v, hv⟩ := Option.isSome_iff_exists.mp hname
    simp only [List.length_append, List.length_cons] at hn
    rw [hf.placeholder a name v b hv, hg.placeholder a name v b hv,
      ih a.length (by omega) a rfl, ih b.length (by omega) b rfl]
  · rw [hf.free s hs, hg.free s hs]

/-- **Filling replaces the four placeholders, whatever they stand for, and it is the only way to do
so.** -/
theorem isSubstitution_iff_eq_fill
    (hvalue : ∀ name, (value name).isSome ↔ name ∈ Template.placeholderNames) :
    IsSubstitution value f ↔ f = fill value := by
  have hbrace : ∀ name ∈ Template.placeholderNames, '\x7b' ∉ name ∧ '\x7d' ∉ name := by decide
  have hopen : ∀ name, '\x7b' ∈ name → value name = none := fun name h => by
    by_contra hsome
    exact (hbrace name ((hvalue name).mp (Option.isSome_iff_ne_none.mpr hsome))).1 h
  have hfill : IsSubstitution value (fill value) :=
    { free := fun _ => fill_eq_self
      placeholder := fun a name v b hv => by
        have hclose := (hbrace name ((hvalue name).mp (by rw [hv]; rfl))).2
        exact fill_append_placeholder hopen hclose hv a b }
  constructor
  · exact fun hf => hf.eq hfill
  · rintro rfl
    exact hfill

/-- The four names, and no others, stand for something in every query. -/
theorem Template.isSome_placeholder_iff {q : Query} {terms : List Char} :
    (placeholder q terms name).isSome ↔ name ∈ placeholderNames := by
  refine ⟨mem_placeholderNames, fun h => ?_⟩
  simp only [placeholderNames, List.mem_cons, List.not_mem_nil, or_false] at h
  rcases h with rfl | rfl | rfl | rfl <;> rfl

/-- Open and unknown braces around a placeholder, and a value that looks like one. -/
theorem isSubstitution_iff_eq_fill_nested :
    let value := Template.placeholder { Query.ofTerms "x" with page := 2 } "\x7bpage\x7d".toList
    (∀ name, (value name).isSome ↔ name ∈ Template.placeholderNames) ∧
      IsSubstitution value (fill value) ∧ fill value "\x7bx\x7b\x7bquery\x7d\x7d\x7bpage".toList =
        "\x7bx\x7b\x7bpage\x7d\x7d\x7bpage".toList := by
  intro value
  have hvalue : ∀ name, (value name).isSome ↔ name ∈ Template.placeholderNames := fun _ =>
    Template.isSome_placeholder_iff
  have hfill := (isSubstitution_iff_eq_fill hvalue).mpr rfl
  have hfree : ∀ s : List Char,
      (∀ name ∈ Template.placeholderNames, ¬('\x7b' :: name ++ ['\x7d'] <:+: s)) →
        fill value s = s := by
    intro s hs
    refine hfill.free s ?_
    rintro ⟨name, hname, hin⟩
    exact hs name ((hvalue name).mp hname) hin
  have htext : "\x7bx\x7b\x7bquery\x7d\x7d\x7bpage".toList = "\x7bx\x7b".toList ++
      ('\x7b' :: "query".toList ++ ['\x7d']) ++ "\x7d\x7bpage".toList := by decide
  refine ⟨hvalue, hfill, ?_⟩
  rw [htext, hfill.placeholder _ _ _ _ (rfl : value "query".toList = some "\x7bpage\x7d".toList),
    hfree "\x7bx\x7b".toList (by decide +kernel),
    hfree "\x7d\x7bpage".toList (by decide +kernel)]
  decide

end Metasearch
