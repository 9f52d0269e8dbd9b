import Metasearch.Proofs.Toml.Scalar
import Metasearch.Proofs.Toml.Text

/-!
# Values of TOML, written and read

A value on the right of a name is a text, a number, a truth value or a sequence of these. What it is
written as is read back in front of whatever ends a value, with as much fuel as the text is long.

## Main definitions

* `IsValue`: a value that is written on the right of a name.
* `Spells`: a text that is read as a value.

## Main results

* `exists_spells`: a value is written as a text that spells it.
-/

namespace Metasearch.Toml

open Metasearch.Number Metasearch.Text

variable {c : Char} {s t u rest : List Char} {d : Data} {items : List Data}
  {texts : List (List Char)} {fuel depth : Nat}

/-! ### Between lines -/

theorem skipLines_cons (hblank : isBlank c = false) (hfeed : c ≠ '\n') (hcomment : c ≠ '#')
    (fuel : Nat) (s : List Char) : skipLines (fuel + 1) (c :: s) = some (c :: s) := by
  have hskip : skipBlank (c :: s) = c :: s := by simp [skipBlank, hblank]
  have hcomment : skipComment? (c :: s) = some (c :: s) := by
    rw [skipComment?]
    rintro r heq
    exact hcomment (List.cons.inj heq).1
  rw [skipLines, hskip, hcomment, Option.bind_eq_bind, Option.bind_some]
  split
  · rename_i heq
    exact absurd (List.cons.inj heq).1 hfeed
  · rfl

theorem skipLines_feed (fuel : Nat) (s : List Char) :
    skipLines (fuel + 1) ('\n' :: s) = skipLines fuel s :=
  rfl

theorem skipLines_blank (hblank : isBlank c = true) (fuel : Nat) (s : List Char) :
    skipLines (fuel + 1) (c :: s) = skipLines (fuel + 1) s := by
  have hskip : skipBlank (c :: s) = skipBlank s := by simp [skipBlank, hblank]
  rw [skipLines, hskip, skipLines]

/-! ### Texts of values -/

/-- Holds of the characters that a value starts with. -/
def isOpening (c : Char) : Bool :=
  isScalarChar c || c == '"' || c == '\'' || c == '['

/-- A text that is read as a value that stands in a number of others. -/
structure Spells (depth : Nat) (s : List Char) (d : Data) : Prop where
  /-- How it starts. -/
  opening : ∃ c r, s = c :: r ∧ isOpening c = true
  /-- There are no control characters but tabs and line feeds. -/
  written : ∀ c ∈ s, isWritten c = true
  /-- It is read with fuel for each character. -/
  reads : ∀ {fuel rest}, s.length ≤ fuel → Ends rest →
    readValue fuel depth (s ++ rest) = some (d, rest)

theorem ne_of_isOpening {d : Char} (hc : isOpening c = true) (hd : isOpening d = false) : c ≠ d := by
  rintro rfl
  exact absurd hc (by simp [hd])

theorem not_isBlank_of_isOpening (hc : isOpening c = true) : isBlank c = false := by
  have hspace : c ≠ ' ' := ne_of_isOpening hc (by decide)
  have htab : c ≠ '\t' := ne_of_isOpening hc (by decide)
  simp [isBlank, hspace, htab]

theorem Spells.skipBlank (h : Spells depth s d) (rest : List Char) :
    skipBlank (s ++ rest) = s ++ rest := by
  obtain ⟨c, r, rfl, hc⟩ := h.opening
  simp [Toml.skipBlank, not_isBlank_of_isOpening hc]

theorem Spells.skipLines (h : Spells depth s d) (fuel : Nat) (rest : List Char) :
    skipLines (fuel + 1) (s ++ rest) = some (s ++ rest) := by
  obtain ⟨c, r, rfl, hc⟩ := h.opening
  exact skipLines_cons (not_isBlank_of_isOpening hc) (ne_of_isOpening hc (by decide))
    (ne_of_isOpening hc (by decide)) fuel _

/-! ### Values that hold no others -/

/-- A value that holds no others and is read back. -/
def IsScalar : Data → Prop
  | .bool _ | .text _ => True
  | .int i => Data.minSigned ≤ i ∧ i ≤ Data.maxSigned
  | .float x => x.isFinite = true
  | _ => False

/-- What starts as neither a sequence nor a table is a quoted text or a run. -/
theorem readValue_of_ne (hlist : c ≠ '[') (htable : c ≠ '\x7b') (fuel depth : Nat) (r : List Char) :
    readValue (fuel + 1) depth (c :: r) = match readQuoted (c :: r) with
      | some (t, rest) => some (.text (String.ofList t), rest)
      | none => readRun (c :: r) := by
  rw [readValue.eq_def]
  dsimp only
  split
  · rename_i heq
    exact absurd (List.cons.inj heq).1 hlist
  · rename_i heq
    exact absurd (List.cons.inj heq).1 htable
  · rfl

theorem quoted_eq_cons (s : List Char) :
    ∃ c r, quoted s = c :: r ∧ (c = '"' ∨ c = '\'') := by
  rw [quoted]
  split
  · exact ⟨_, _, rfl, .inr rfl⟩
  · split_ifs <;> exact ⟨_, _, rfl, .inr rfl⟩
  · exact ⟨_, _, rfl, .inl rfl⟩
  · exact ⟨_, _, rfl, .inl rfl⟩

theorem spells_quoted (depth : Nat) (t : String) : Spells depth (quoted t.toList) (.text t) := by
  obtain ⟨c, r, hcons, hc⟩ := quoted_eq_cons t.toList
  refine ⟨⟨c, r, hcons, ?_⟩, isWritten_quoted _, fun {fuel rest} hfuel hrest => ?_⟩
  · rcases hc with rfl | rfl <;> decide
  · have hread := readQuoted_quoted t.toList (hrest.head?_ne (by decide)) (hrest.head?_ne (by decide))
    rw [hcons] at hfuel hread ⊢
    obtain ⟨fuel, rfl⟩ := Nat.exists_eq_add_of_le' (Nat.le_trans (Nat.le_add_left 1 _) hfuel)
    rw [List.cons_append] at hread ⊢
    rw [readValue_of_ne, hread]
    · simp
    · rcases hc with rfl | rfl <;> decide
    · rcases hc with rfl | rfl <;> decide

theorem isWritten_of_isScalarChar (hc : isScalarChar c = true) : isWritten c = true := by
  simp only [isScalarChar, Bool.or_eq_true, beq_iff_eq] at hc
  rcases hc with ((hc | rfl) | rfl) | rfl
  · exact isWritten_of_isBare hc
  · decide
  · decide
  · decide

theorem IsRun.spells (h : IsRun s d) (depth : Nat) : Spells depth s d := by
  obtain ⟨c, r, hcons⟩ := List.exists_cons_of_ne_nil h.nonempty
  have hc : isScalarChar c = true := h.marks c (hcons ▸ List.mem_cons_self)
  have hne : ∀ {d}, isScalarChar d = false → c ≠ d := by
    rintro d hd rfl
    exact absurd hc (by simp [hd])
  refine ⟨⟨c, r, hcons, by simp [isOpening, hc]⟩, fun c hc => ?_, fun {fuel rest} hfuel hrest => ?_⟩
  · exact isWritten_of_isScalarChar (h.marks c hc)
  · have hread := h.readRun_append hrest
    rw [hcons] at hfuel hread ⊢
    obtain ⟨fuel, rfl⟩ := Nat.exists_eq_add_of_le' (Nat.le_trans (Nat.le_add_left 1 _) hfuel)
    have hquoted : readQuoted (c :: (r ++ rest)) = none := by
      rw [readQuoted_eq_readQuotedName, readQuotedName]
      · rintro r heq
        exact hne (by decide) (List.cons.inj heq).1
      · rintro r heq
        exact hne (by decide) (List.cons.inj heq).1
      · rintro r heq
        exact hne (by decide) (List.cons.inj heq).1
      · rintro r heq
        exact hne (by decide) (List.cons.inj heq).1
    rw [List.cons_append] at hread ⊢
    rw [readValue_of_ne (hne (by decide)) (hne (by decide)), hquoted]
    exact hread

/-- **A value that holds no others is written as a text that spells it.** -/
theorem IsScalar.exists_spells (h : IsScalar d) (depth : Nat) :
    ∃ s, valueText? d = some s ∧ Spells depth s d := by
  cases d with
  | bool b => exact ⟨_, rfl, (isRun_bool b).spells depth⟩
  | int i => exact ⟨_, if_pos h, (isRun_intText h.1 h.2).spells depth⟩
  | float x => exact ⟨_, rfl, (isRun_floatText h).spells depth⟩
  | text t => exact ⟨_, rfl, spells_quoted depth t⟩
  | _ => exact h.elim

/-! ### Sequences -/

/-- An item is read after a gap, and what follows it decides. -/
theorem readItems_of_spells (h : Spells depth s d) (hfuel : s.length ≤ fuel) (hrest : Ends rest)
    (hgap : skipLines (t.length + 1) t = some (s ++ rest)) : readItems (fuel + 1) depth t = (do
      match ← skipLines (rest.length + 1) rest with
      | ',' :: r =>
        let (items, rest) ← readItems fuel depth r
        return (d :: items, rest)
      | ']' :: r => return ([d], r)
      | _ => none) := by
  obtain ⟨c, r, hcons, hc⟩ := h.opening
  rw [readItems, hgap, Option.bind_eq_bind, Option.bind_some]
  split
  · rename_i heq
    rw [hcons] at heq
    exact absurd (List.cons.inj heq).1 (ne_of_isOpening hc (by decide))
  · rw [h.reads hfuel hrest]
    rfl

theorem readItems_cons (h : Spells depth s d) (hfuel : s.length ≤ fuel)
    (hgap : skipLines (t.length + 1) t = some (s ++ ',' :: rest))
    (hread : readItems fuel depth rest = some (items, u)) :
    readItems (fuel + 1) depth t = some (d :: items, u) := by
  rw [readItems_of_spells h hfuel ⟨_, _, rfl, by decide⟩ hgap,
    skipLines_cons (by decide) (by decide) (by decide)]
  simp [hread]

theorem readItems_last (h : Spells depth s d) (hfuel : s.length ≤ fuel)
    (hgap : skipLines (t.length + 1) t = some (s ++ ']' :: rest)) :
    readItems (fuel + 1) depth t = some ([d], rest) := by
  rw [readItems_of_spells h hfuel ⟨_, _, rfl, by decide⟩ hgap,
    skipLines_cons (by decide) (by decide) (by decide)]
  rfl

/-- Items that take a line each are read one by one. -/
theorem readItems_lines (h : List.Forall₂ (Spells depth) texts items)
    (hfuel : (texts.flatMap fun s => "\n    ".toList ++ s ++ [',']).length < fuel) :
    readItems fuel depth ((texts.flatMap fun s => "\n    ".toList ++ s ++ [',']) ++
      '\n' :: ']' :: rest) = some (items, rest) := by
  have hline : "\n    ".toList = ['\n', ' ', ' ', ' ', ' '] := rfl
  rw [hline] at hfuel ⊢
  induction h generalizing fuel with
  | nil =>
    obtain ⟨fuel, rfl⟩ := Nat.exists_eq_add_of_le' (show 1 ≤ fuel by omega)
    rw [List.flatMap_nil, List.nil_append, readItems, List.length_cons, skipLines_feed,
      List.length_cons, skipLines_cons (by decide) (by decide) (by decide)]
    rfl
  | cons hs hrest ih =>
    rename_i s d texts items
    obtain ⟨fuel, rfl⟩ := Nat.exists_eq_add_of_le' (show 1 ≤ fuel by omega)
    simp only [List.flatMap_cons, List.length_append, List.length_cons, List.length_nil] at hfuel
    refine readItems_cons hs (by omega) ?_ (ih (by omega))
    simp only [List.flatMap_cons, List.append_assoc, List.cons_append, List.nil_append,
      List.length_cons]
    rw [skipLines_feed, skipLines_blank rfl, skipLines_blank rfl, skipLines_blank rfl,
      skipLines_blank rfl, hs.skipLines]

theorem forall_written (h : List.Forall₂ (Spells depth) texts items) :
    ∀ s ∈ texts, ∀ c ∈ s, isWritten c = true := by
  induction h with
  | nil => exact List.forall_mem_nil _
  | cons hs _ ih => exact List.forall_mem_cons.mpr ⟨hs.written, ih⟩

/-- A sequence is spelled where its items are read up to the closing bracket. -/
theorem spells_list {t : List Char} (hdepth : depth + 1 < maxDepth)
    (hwritten : ∀ c ∈ t, isWritten c = true) (hitems : ∀ {fuel rest}, t.length ≤ fuel →
      readItems fuel (depth + 1) (t ++ rest) = some (items, rest)) :
    Spells depth ('[' :: t) (.list items) := by
  refine ⟨⟨_, _, rfl, by decide⟩, List.forall_mem_cons.mpr ⟨by decide, hwritten⟩,
    fun {fuel rest} hfuel _ => ?_⟩
  obtain ⟨fuel, rfl⟩ := Nat.exists_eq_add_of_le' (Nat.le_trans (Nat.le_add_left 1 _) hfuel)
  rw [List.cons_append, readValue, if_neg (by omega), hitems (by simpa using hfuel)]
  rfl

/-- **A sequence spells its items** in each of the three layouts. -/
theorem spells_sequenceText (h : List.Forall₂ (Spells (depth + 1)) texts items)
    (hdepth : depth + 1 < maxDepth) : Spells depth (sequenceText texts) (.list items) := by
  cases h with
  | nil =>
    refine spells_list (t := [']']) hdepth (List.all_eq_true.mp rfl) fun {fuel rest} hfuel => ?_
    obtain ⟨fuel, rfl⟩ := Nat.exists_eq_add_of_le' hfuel
    rw [List.cons_append, List.length_singleton, readItems,
      skipLines_cons (by decide) (by decide) (by decide)]
    rfl
  | @cons s d texts items hs hrest =>
    cases hrest with
    | nil =>
      refine spells_list (t := s ++ [']']) hdepth ?_ fun {fuel rest} hfuel => ?_
      · simp only [List.forall_mem_append, List.forall_mem_singleton]
        exact ⟨hs.written, by decide⟩
      · rw [List.length_append, List.length_singleton] at hfuel
        obtain ⟨fuel, rfl⟩ := Nat.exists_eq_add_of_le' (Nat.le_trans (Nat.le_add_left 1 _) hfuel)
        refine readItems_last hs (by omega) ?_
        rw [List.append_assoc, hs.skipLines]
        rfl
    | @cons s' d' texts items hs' hrest =>
      have hall := List.Forall₂.cons hs (List.Forall₂.cons hs' hrest)
      refine spells_list (t := ((s :: s' :: texts).flatMap fun s => "\n    ".toList ++ s ++ [',']) ++
        "\n]".toList) hdepth ?_ fun {fuel rest} hfuel => ?_
      · simp only [List.forall_mem_append]
        refine ⟨fun c hc => ?_, List.all_eq_true.mp rfl⟩
        obtain ⟨t, ht, hc⟩ := List.mem_flatMap.mp hc
        rcases List.mem_append.mp hc with hc | hc
        · rcases List.mem_append.mp hc with hc | hc
          · exact List.all_eq_true.mp (rfl : "\n    ".toList.all isWritten = true) c hc
          · exact forall_written hall t ht c hc
        · exact List.all_eq_true.mp (rfl : [','].all isWritten = true) c hc
      · rw [List.append_assoc]
        refine readItems_lines hall ?_
        rw [List.length_append] at hfuel
        exact Nat.lt_of_lt_of_le (Nat.lt_add_of_pos_right (by decide)) hfuel

/-! ### Values -/

/-- A value that is written on the right of a name: it holds no others, or none that do. -/
inductive IsValue : Data → Prop
  /-- A value that holds no others. -/
  | scalar {d : Data} (h : IsScalar d) : IsValue d
  /-- A sequence. -/
  | list {items : List Data} (h : ∀ d ∈ items, IsScalar d) : IsValue (.list items)

theorem exists_forall₂_spells (h : ∀ d ∈ items, IsScalar d) (depth : Nat) :
    ∃ texts, valueTexts? items = some texts ∧ List.Forall₂ (Spells depth) texts items := by
  induction items with
  | nil => exact ⟨[], rfl, .nil⟩
  | cons d items ih =>
    obtain ⟨s, hs, hspells⟩ := (h d List.mem_cons_self).exists_spells depth
    obtain ⟨texts, htexts, hall⟩ := ih fun d hd => h d (List.mem_cons_of_mem _ hd)
    exact ⟨s :: texts, by simp [valueTexts?, hs, htexts], .cons hspells hall⟩

/-- **A value is written as a text that spells it.** -/
theorem IsValue.exists_spells (h : IsValue d) : ∃ s, valueText? d = some s ∧ Spells 0 s d := by
  cases h with
  | scalar h => exact h.exists_spells 0
  | list h =>
    obtain ⟨texts, htexts, hall⟩ := exists_forall₂_spells h 1
    exact ⟨sequenceText texts, by rw [valueText?, htexts]; rfl,
      spells_sequenceText hall (by decide)⟩

end Metasearch.Toml
