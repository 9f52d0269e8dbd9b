import Metasearch.Proofs.Toml.Value

/-!
# Lines of TOML, written and read

`Reads` describes a text of lines by the states of reading between them. Every line is written with
an end, so how it is read does not depend on what follows, and blank lines change nothing. From such
a description of a whole document follows what it denotes.

## Main definitions

* `Reads`: a text of lines that leads from one state of reading to another.
* `Follows`: the same of sections with blank lines between.

## Main results

* `Reads.parse?_eq`: what a document denotes.
* `Reads.field`, `Reads.table`, `Reads.item`: the three kinds of lines.
-/

namespace Metasearch.Toml

open Metasearch.Text

variable {c : Char} {s t l rest : List Char} {d : Data} {p p' p'' : Progress} {fuel : Nat}
  {name : String} {path : List String} {entries : Entries} {sections sections' : List (List Char)}

/-! ### Documents of lines -/

/-- Holds of the characters that a line starts with. -/
def startsLine (c : Char) : Bool :=
  isBare c || c == '"' || c == '\'' || c == '['

/-- A text of lines that leads from one state of reading to another. -/
inductive Reads : Progress → List Char → Progress → Prop
  /-- No line. -/
  | done (p : Progress) : Reads p [] p
  /-- A blank line before others. -/
  | blank {p p' : Progress} {s : List Char} (h : Reads p s p') : Reads p ('\n' :: s) p'
  /-- A line before others. -/
  | line {p p' p'' : Progress} {l s : List Char} (hstart : ∃ c r, l = c :: r ∧ startsLine c = true)
    (hwritten : ∀ c ∈ l, isWritten c = true)
    (hread : ∀ rest, readLine p (l ++ '\n' :: rest) = some (p', rest)) (h : Reads p' s p'') :
    Reads p (l ++ '\n' :: s) p''

/-- A text in which all lines end with a line feed alone. -/
theorem unifyLines_eq_self (h : '\r' ∉ s) : unifyLines s = s := by
  induction s with
  | nil => rfl
  | cons c s ih =>
    obtain ⟨hc, hs⟩ := List.ne_and_not_mem_of_not_mem_cons h
    rw [unifyLines, ih hs]
    rintro r rfl -
    exact hc rfl

namespace Reads

theorem eq_of_nil (h : Reads p s p') (hs : s = []) : p = p' := by
  cases h with
  | done p => rfl
  | blank h => cases hs
  | line => simp at hs

theorem trans (h : Reads p s p') (h' : Reads p' t p'') : Reads p (s ++ t) p'' := by
  induction h with
  | done p => exact h'
  | blank h ih => exact (ih h').blank
  | line hstart hwritten hread h ih =>
    rw [List.append_assoc, List.cons_append]
    exact line hstart hwritten hread (ih h')

theorem written (h : Reads p s p') : ∀ c ∈ s, isWritten c = true := by
  induction h with
  | done p => exact List.forall_mem_nil _
  | blank h ih => exact List.forall_mem_cons.mpr ⟨by decide, ih⟩
  | line hstart hwritten hread h ih =>
    simp only [List.forall_mem_append, List.forall_mem_cons]
    exact ⟨hwritten, by decide, ih⟩

/-- **Lines are read one by one** with fuel for each character. -/
theorem readLinesFrom (h : Reads p s p') (hfuel : s.length < fuel) :
    readLinesFrom fuel p s = some p' := by
  induction h generalizing fuel with
  | done p =>
    obtain ⟨fuel, rfl⟩ := Nat.exists_eq_add_of_le' (Nat.succ_le_of_lt hfuel)
    rfl
  | @blank p p' s h ih =>
    obtain ⟨fuel, rfl⟩ := Nat.exists_eq_add_of_le' (Nat.zero_lt_of_lt hfuel)
    have hskip : Toml.readLinesFrom (fuel + 1) p ('\n' :: s) =
        Toml.readLinesFrom (fuel + 1) p s := by
      rw [Toml.readLinesFrom, List.length_cons, skipLines_feed, Toml.readLinesFrom]
    rw [hskip]
    exact ih (by simp at hfuel; omega)
  | @line p p' p'' l s hstart hwritten hread h ih =>
    obtain ⟨c, r, rfl, hc⟩ := hstart
    obtain ⟨fuel, rfl⟩ := Nat.exists_eq_add_of_le' (Nat.zero_lt_of_lt hfuel)
    have hskip : ∀ n, skipLines (n + 1) (c :: r ++ '\n' :: s) = some (c :: r ++ '\n' :: s) := by
      have hne : ∀ {d}, startsLine d = false → c ≠ d := by
        rintro d hd rfl
        exact absurd hc (by simp [hd])
      have hblank : isBlank c = false := by
        simp only [isBlank, Bool.or_eq_false_iff, beq_eq_false_iff_ne]
        exact ⟨hne (by decide), hne (by decide)⟩
      exact fun n => skipLines_cons hblank (hne (by decide)) (hne (by decide)) n _
    rw [Toml.readLinesFrom, hskip, Option.bind_eq_bind, Option.bind_some]
    split
    · rename_i heq
      exact absurd heq (List.cons_ne_nil _ _)
    · rw [hread s]
      refine ih ?_
      simp at hfuel
      omega

theorem skipMark_eq_self (h : Reads p s p') : skipMark s = s := by
  cases h with
  | done p => rfl
  | blank h => rfl
  | line hstart =>
    obtain ⟨c, r, rfl, hc⟩ := hstart
    rw [List.cons_append, skipMark]
    rintro r heq
    rw [(List.cons.inj heq).1] at hc
    exact absurd hc (by decide)

/-- **What a document denotes** whose lines lead to a state of reading. -/
theorem parse?_eq (h : Reads ⟨[], []⟩ s p) : parse? s = some (.table (entriesData p.entries)) := by
  have hunify : unifyLines s = s := unifyLines_eq_self fun hr =>
    absurd (h.written '\r' hr) (by decide)
  rw [parse?, h.skipMark_eq_self, hunify, h.readLinesFrom (Nat.lt_succ_self _)]
  rfl

end Reads

/-- Sections that lead from one state of reading to another. -/
inductive Follows : Progress → List (List Char) → Progress → Prop
  /-- No section. -/
  | nil (p : Progress) : Follows p [] p
  /-- A section before others. -/
  | cons {p p' p'' : Progress} {s : List Char} {sections : List (List Char)} (h : Reads p s p')
    (h' : Follows p' sections p'') : Follows p (s :: sections) p''

theorem Follows.append (h : Follows p sections p') (h' : Follows p' sections' p'') :
    Follows p (sections ++ sections') p'' := by
  induction h with
  | nil p => exact h'
  | cons hs _ ih => exact .cons hs (ih h')

/-- Blank lines may stand between sections. -/
theorem Follows.joinWith (h : Follows p sections p') : Reads p (joinWith ['\n'] sections) p' := by
  induction h with
  | nil p => exact .done p
  | cons hs hrest ih =>
    cases hrest with
    | nil p => exact hs
    | cons hs' hrest =>
      rw [Text.joinWith, List.append_assoc]
      exact hs.trans ih.blank

/-! ### Kinds of lines -/

theorem endLine?_feed (rest : List Char) : endLine? ('\n' :: rest) = some rest := rfl

theorem startsLine_nameText (name : String) (s : List Char) :
    ∃ c r, nameText name ++ s = c :: r ∧ startsLine c = true := by
  obtain ⟨c, t, h, hc⟩ := nameText_eq_cons name
  refine ⟨c, t ++ s, by rw [h, List.cons_append], ?_⟩
  rcases hc with hc | rfl | rfl
  · simp [startsLine, hc]
  · decide
  · decide

/-- No name starts like a header. -/
theorem nameText_append_ne (name : String) (s r : List Char) : nameText name ++ s ≠ '[' :: r := by
  obtain ⟨c, t, h, hc⟩ := nameText_eq_cons name
  rw [h, List.cons_append]
  rintro heq
  rw [(List.cons.inj heq).1] at hc
  exact absurd hc (by decide)

theorem pathText_append_ne (path : List String) (name : String) (s r : List Char) :
    pathText (path ++ [name]) ++ s ≠ '[' :: r := by
  cases path with
  | nil => exact nameText_append_ne name s r
  | cons first path =>
    obtain ⟨t, ht⟩ : ∃ t, pathText (first :: path ++ [name]) = nameText first ++ t := by
      cases path <;> simp [pathText, joinWith, List.append_assoc]
    rw [ht, List.append_assoc]
    exact nameText_append_ne first _ r

theorem readLine_field (h : Spells 0 s d)
    (hput : putUnder? p.current [] name d p.entries = some entries) (rest : List Char) :
    readLine p (nameText name ++ " = ".toList ++ s ++ '\n' :: rest) =
      some (⟨p.current, entries⟩, rest) := by
  have hline : nameText name ++ " = ".toList ++ s ++ '\n' :: rest =
      pathText ([] ++ [name]) ++ ' ' :: '=' :: ' ' :: (s ++ '\n' :: rest) := by
    simp [pathText, joinWith]
  have hskip : skipBlank (' ' :: '=' :: ' ' :: (s ++ '\n' :: rest)) =
      '=' :: ' ' :: (s ++ '\n' :: rest) := rfl
  have hpath : readPath (pathText ([] ++ [name]) ++ ' ' :: '=' :: ' ' :: (s ++ '\n' :: rest)) =
      some ([], name, skipBlank (' ' :: '=' :: ' ' :: (s ++ '\n' :: rest))) :=
    readPath_pathText [] name (by decide) (by rintro c ⟨⟩; decide) (by simp [hskip])
  have hvalue : skipBlank (' ' :: (s ++ '\n' :: rest)) = s ++ '\n' :: rest :=
    h.skipBlank ('\n' :: rest)
  have hread : readValue (2 * (' ' :: (s ++ '\n' :: rest)).length + 2) 0 (s ++ '\n' :: rest) =
      some (d, '\n' :: rest) := h.reads (by simp; omega) ⟨_, _, rfl, by decide⟩
  rw [hline, readLine, readField, hpath, hskip]
  · simp only [Option.bind_eq_bind, Option.bind_some, hvalue, hread, hput, endLine?_feed]
    rfl
  · exact fun r => nameText_append_ne name _ _
  · exact fun r => nameText_append_ne name _ _

/-- A path in a header is read up to its brackets. -/
theorem readPath_header (hlength : path.length + 1 < maxDepth) (rest : List Char) :
    readPath (pathText (path ++ [name]) ++ ']' :: rest) = some (path, name, ']' :: rest) :=
  readPath_pathText path name hlength (by rintro c ⟨⟩; decide) (by simp [skipBlank, isBlank])

theorem readLine_table (hlength : path.length + 1 < maxDepth)
    (hopen : openTable? path name p.entries = some entries) (rest : List Char) :
    readLine p ('[' :: (pathText (path ++ [name]) ++ [']']) ++ '\n' :: rest) =
      some (⟨path ++ [name], entries⟩, rest) := by
  have hline : '[' :: (pathText (path ++ [name]) ++ [']']) ++ '\n' :: rest =
      '[' :: (pathText (path ++ [name]) ++ ']' :: '\n' :: rest) := by simp
  rw [hline, readLine, readTableHeader, readPath_header hlength]
  · simp only [Option.bind_eq_bind, Option.bind_some, hopen, endLine?_feed]
    rfl
  · exact fun r => pathText_append_ne path name _ r

theorem readLine_item (hlength : path.length + 1 < maxDepth)
    (hopen : openItem? path name p.entries = some entries) (rest : List Char) :
    readLine p ('[' :: '[' :: (pathText (path ++ [name]) ++ [']', ']']) ++ '\n' :: rest) =
      some (⟨path ++ [name], entries⟩, rest) := by
  have hline : '[' :: '[' :: (pathText (path ++ [name]) ++ [']', ']']) ++ '\n' :: rest =
      '[' :: '[' :: (pathText (path ++ [name]) ++ ']' :: ']' :: '\n' :: rest) := by simp
  rw [hline, readLine, readItemHeader, readPath_header hlength]
  simp only [Option.bind_eq_bind, Option.bind_some, hopen, endLine?_feed]
  rfl

namespace Reads

/-- **A name with a value is read** in front of other lines. -/
theorem field (hs : Spells 0 s d)
    (hput : putUnder? p.current [] name d p.entries = some entries)
    (h : Reads ⟨p.current, entries⟩ t p') :
    Reads p (nameText name ++ " = ".toList ++ s ++ '\n' :: t) p' := by
  refine line ?_ ?_ (readLine_field hs hput) h
  · rw [List.append_assoc]
    exact startsLine_nameText name _
  · simp only [List.forall_mem_append]
    exact ⟨⟨isWritten_nameText name, List.all_eq_true.mp rfl⟩, hs.written⟩

/-- **A header of a table is read** in front of other lines. -/
theorem table (hlength : path.length + 1 < maxDepth)
    (hopen : openTable? path name p.entries = some entries)
    (h : Reads ⟨path ++ [name], entries⟩ t p') :
    Reads p ('[' :: pathText (path ++ [name]) ++ "]\n".toList ++ t) p' := by
  have hline : '[' :: pathText (path ++ [name]) ++ "]\n".toList ++ t =
      '[' :: (pathText (path ++ [name]) ++ [']']) ++ '\n' :: t := by simp
  rw [hline]
  refine line ⟨_, _, rfl, by decide⟩ ?_ (readLine_table hlength hopen) h
  simp only [List.forall_mem_cons, List.forall_mem_append]
  exact ⟨by decide, isWritten_pathText _, by decide, List.forall_mem_nil _⟩

/-- **A header of a sequence of tables is read** in front of other lines. -/
theorem item (hlength : path.length + 1 < maxDepth)
    (hopen : openItem? path name p.entries = some entries)
    (h : Reads ⟨path ++ [name], entries⟩ t p') :
    Reads p ("[[".toList ++ pathText (path ++ [name]) ++ "]]\n".toList ++ t) p' := by
  have hline : "[[".toList ++ pathText (path ++ [name]) ++ "]]\n".toList ++ t =
      '[' :: '[' :: (pathText (path ++ [name]) ++ [']', ']']) ++ '\n' :: t := by simp
  rw [hline]
  refine line ⟨_, _, rfl, by decide⟩ ?_ (readLine_item hlength hopen) h
  simp only [List.forall_mem_cons, List.forall_mem_append]
  exact ⟨by decide, by decide, isWritten_pathText _, by decide, by decide, List.forall_mem_nil _⟩

end Reads
end Metasearch.Toml
