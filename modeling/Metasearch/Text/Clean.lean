import Metasearch.Text.Space

/-!
# Clean text

Titles and excerpts are shown on one line. Cleaning collapses white space, takes out bracketed
annotations (`[1]`, `[edit]`) and leftover tags, and trims.

## Main definitions

* `collapse`: each run of white space becomes one space.
* `removeSpans`: takes out every span from an opening character to the next closing one.
* `clean`: the composition.
* `Normal`: what clean text looks like, said without `clean`.
-/

namespace Metasearch.Text

/-- Each run of white space becomes one space; `after` tells whether the character before
was white space. -/
def collapseAfter : Bool → List Char → List Char
  | _, [] => []
  | after, c :: r =>
    if isSpace c then
      if after then collapseAfter true r else ' ' :: collapseAfter true r
    else c :: collapseAfter false r

/-- Each run of white space becomes one space. -/
def collapse (s : List Char) : List Char :=
  collapseAfter false s

/-- Take out every span that starts with `opening` and ends with the next `closing`. An
`opening` with no `closing` after it stays. -/
def removeSpans (opening closing : Char) (s : List Char) : List Char :=
  match s with
  | [] => []
  | c :: r =>
    if c = opening then
      match _h : afterFirst (· == closing) r with
      | some rest => removeSpans opening closing rest
      | none => c :: removeSpans opening closing r
    else c :: removeSpans opening closing r
termination_by s.length
decreasing_by
  · have := length_afterFirst_lt ‹_›
    simp
    omega
  · simp
  · simp

/-- Titles and excerpts as they are shown: white space collapsed, bracketed annotations and
tags taken out, no blank at either end. -/
def clean (s : List Char) : List Char :=
  trim (collapse (removeSpans '<' '>' (removeSpans '[' ']' (collapse s))))

/-- `clean` on a string. -/
def cleaned (s : String) : String :=
  String.ofList (clean s.toList)

/-- A text in which an `opening` is followed somewhere by a `closing`. -/
def HasSpan (opening closing : Char) (s : List Char) : Prop :=
  ∃ before inner after, s = before ++ opening :: inner ++ closing :: after

/-- What clean text looks like: the only white space is the single space between two other
characters, and neither a bracketed annotation nor a tag is left. -/
structure Normal (s : List Char) : Prop where
  /-- The only white space is U+0020. -/
  space_eq : ∀ c ∈ s, isSpace c = true → c = ' '
  /-- No two spaces stand side by side. -/
  not_double : ∀ before after, s ≠ before ++ ' ' :: ' ' :: after
  /-- No space comes first. -/
  head_ne : s.head? ≠ some ' '
  /-- No space comes last. -/
  last_ne : s.getLast? ≠ some ' '
  /-- No bracketed annotation is left. -/
  no_bracket : ¬ HasSpan '[' ']' s
  /-- No tag is left. -/
  no_tag : ¬ HasSpan '<' '>' s

end Metasearch.Text
