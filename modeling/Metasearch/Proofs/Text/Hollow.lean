import Metasearch.Proofs.Text.Clean

/-!
# Texts of which nothing is left

Cleaning may leave nothing of a text that is not blank: annotations and tags are taken out, and
there may be nothing else. White space has no say in that. Where it is collapsed or left alone, the
same spans are found, so that collapsing can be pulled out in front of both removals.

## Main definitions

* `OnlySpans`: a text of white space and spans.
* `IsHollow`: a text of white space, annotations and tags.

## Main results

* `filter_removeSpans`: what is no bracket may be left out before or after.
* `isBlank_removeSpans_iff`: spans are all that there is.
* `cleaned_eq_empty_iff`: nothing is left of a text just when it is hollow.
-/

namespace Metasearch.Text

variable {opening closing c : Char} {s t : List Char} {p : Char → Bool}

/-- A text of white space and spans only. A span goes up to the next closing. -/
inductive OnlySpans (opening closing : Char) : List Char → Prop
  /-- Nothing. -/
  | nil : OnlySpans opening closing []
  /-- White space in front. -/
  | space {c : Char} {s : List Char} (hc : isSpace c = true) (h : OnlySpans opening closing s) :
      OnlySpans opening closing (c :: s)
  /-- A span in front. -/
  | span {inner s : List Char} (hinner : closing ∉ inner) (h : OnlySpans opening closing s) :
      OnlySpans opening closing (opening :: (inner ++ closing :: s))

/-- A text in which there is nothing but tags and white space, annotations apart. -/
def IsHollow (s : List Char) : Prop :=
  OnlySpans '<' '>' (removeSpans '[' ']' s)

/-! ### Spans taken out -/

/-- **What is no bracket may be left out before or after.** -/
theorem filter_removeSpans (hopening : p opening = true) (hclosing : p closing = true)
    (s : List Char) :
    (removeSpans opening closing s).filter p = removeSpans opening closing (s.filter p) := by
  induction s using spans_induction opening closing with
  | nil => rw [removeSpans, List.filter_nil, removeSpans]
  | cons c r hc ih =>
    rw [removeSpans_cons_of_ne hc, List.filter_cons, List.filter_cons, ih]
    split_ifs
    · rw [removeSpans_cons_of_ne hc]
    · rfl
  | unclosed r hr ih =>
    have hkept : closing ∉ r.filter p := fun h => hr (List.mem_of_mem_filter h)
    rw [removeSpans_unclosed hr, List.filter_cons_of_pos hopening, ih,
      List.filter_cons_of_pos hopening, removeSpans_unclosed hkept]
  | closed inner rest hinner _ ih =>
    have hkept : closing ∉ inner.filter p := fun h => hinner (List.mem_of_mem_filter h)
    rw [removeSpans_closed hinner, ih, List.filter_cons_of_pos hopening, List.filter_append,
      List.filter_cons_of_pos hclosing, removeSpans_closed hkept]

theorem isBlank_iff_filter : isBlank s = true ↔ s.filter (fun c => !isSpace c) = [] := by
  rw [isBlank, List.all_eq_true, List.filter_eq_nil_iff]
  simp

theorem isBlank_congr (h : s.filter (fun c => !isSpace c) = t.filter fun c => !isSpace c) :
    isBlank s = isBlank t := by
  rw [Bool.eq_iff_iff, isBlank_iff_filter, isBlank_iff_filter, h]

theorem isBlank_removeSpans_iff (hopening : isSpace opening = false) :
    isBlank (removeSpans opening closing s) = true ↔ OnlySpans opening closing s := by
  constructor
  · intro h
    induction s using spans_induction opening closing with
    | nil => exact .nil
    | cons c r hc ih =>
      rw [removeSpans_cons_of_ne hc, isBlank, List.all_cons, Bool.and_eq_true] at h
      exact .space h.1 (ih h.2)
    | unclosed r hr ih =>
      rw [removeSpans_unclosed hr, isBlank, List.all_cons, hopening] at h
      cases h
    | closed inner rest hinner _ ih =>
      rw [removeSpans_closed hinner] at h
      exact .span hinner (ih h)
  · intro h
    induction h with
    | nil => rw [removeSpans]; rfl
    | @space c s hc h ih =>
      have hne : c ≠ opening := by
        rintro rfl
        exact absurd hc (by rw [hopening]; exact Bool.false_ne_true)
      rw [removeSpans_cons_of_ne hne, isBlank, List.all_cons, hc]
      exact ih
    | span hinner h ih => rwa [removeSpans_closed hinner]

instance : Decidable (IsHollow s) :=
  decidable_of_iff (isBlank (removeSpans '<' '>' (removeSpans '[' ']' s)) = true)
    (isBlank_removeSpans_iff (by decide))

/-! ### Cleaning -/

theorem trim_eq_nil_iff : trim s = [] ↔ isBlank s = true := by
  have hdrop : s.dropWhile isSpace = [] ↔ isBlank s = true := by
    rw [List.dropWhile_eq_nil_iff, isBlank, List.all_eq_true]
  rw [← hdrop, trim, trimWhere, dropTailWhile_eq_rdropWhile, List.rdropWhile_eq_nil_iff]
  refine ⟨fun h => ?_, fun h => by simp [h]⟩
  -- the first character that is kept would be one that is dropped from the other end
  have hhead := List.head?_dropWhile_not isSpace s
  cases hkept : s.dropWhile isSpace with
  | nil => rfl
  | cons c r =>
    rw [hkept] at h hhead
    exact absurd (h c List.mem_cons_self) (by simp at hhead; simp [hhead])

/-- White space that is collapsed hides no span and makes none. -/
theorem clean_eq_nil_iff : clean s = [] ↔ IsHollow s := by
  have hseen : ∀ opening closing : Char, isSpace opening = false → isSpace closing = false →
      ∀ s, (removeSpans opening closing s).filter (fun c => !isSpace c) =
        removeSpans opening closing (s.filter fun c => !isSpace c) := by
    intro opening closing hopening hclosing s
    exact filter_removeSpans (by simp [hopening]) (by simp [hclosing]) s
  have hcollapse : ∀ s, (collapse s).filter (fun c => !isSpace c) = s.filter fun c => !isSpace c :=
    filter_collapseAfter false
  have hsame : isBlank (collapse (removeSpans '<' '>' (removeSpans '[' ']' (collapse s)))) =
      isBlank (removeSpans '<' '>' (removeSpans '[' ']' s)) := by
    refine isBlank_congr ?_
    rw [hcollapse, hseen '<' '>' (by decide) (by decide), hseen '[' ']' (by decide) (by decide),
      hcollapse, hseen '<' '>' (by decide) (by decide), hseen '[' ']' (by decide) (by decide)]
  rw [clean, trim_eq_nil_iff, hsame, isBlank_removeSpans_iff (by decide), IsHollow]

/-- **Nothing is left of a text just when it is hollow.** -/
theorem cleaned_eq_empty_iff {s : String} : cleaned s = "" ↔ IsHollow s.toList := by
  rw [cleaned, ← String.toList_eq_nil_iff, String.toList_ofList, clean_eq_nil_iff]

/-- A tag does not end within an annotation, which is taken out first. -/
example : IsHollow "[a] <b [>] c>".toList ∧ ¬IsHollow "[a] <b [>] c".toList := by decide +kernel

end Metasearch.Text
