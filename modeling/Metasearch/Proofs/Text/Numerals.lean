import Metasearch.Proofs.Text.Pieces

/-!
# Texts that differ in numerals

Two texts into which numbers are written at the same places are the same but for some numerals.
Nothing that cuts a text looks at digits, and no numeral is empty; so the two texts are cut at the
same marks, and a piece of one is empty just when that of the other is.

## Main definitions

* `Renumbered`: the same text with other numerals in it.

## Main results

* `Renumbered.beforeFirst`, `Renumbered.afterFirst`, `Renumbered.splitWhere`: cutting.
* `Renumbered.trimWhere`, `Renumbered.filter`: leaving out.
-/

namespace Metasearch.Text

/-- Digits, and at least one. -/
def IsNumeral (s : List Char) : Prop :=
  s ≠ [] ∧ ∀ c ∈ s, c.isDigit = true

/-- Texts that are the same but for some numerals. -/
inductive Renumbered : List Char → List Char → Prop
  | nil : Renumbered [] []
  /-- One character more in both. -/
  | cons {a b : List Char} (e : Char) : Renumbered a b → Renumbered (e :: a) (e :: b)
  /-- A numeral more in either. -/
  | numeral {v w a b : List Char} : IsNumeral v → IsNumeral w → Renumbered a b →
      Renumbered (v ++ a) (w ++ b)

variable {a b c d v w : List Char} {p : Char → Bool}

/-- What no digit satisfies is satisfied by nothing in a numeral. -/
theorem IsNumeral.not_of_mem (hv : IsNumeral v) (hp : ∀ e, e.isDigit = true → p e = false) :
    ∀ e ∈ v, p e = false :=
  fun e he => hp e (hv.2 e he)

/-- A numeral starts with a digit. -/
theorem IsNumeral.exists_cons (hv : IsNumeral v) : ∃ e r, v = e :: r ∧ e.isDigit = true := by
  obtain ⟨e, r, rfl⟩ := List.exists_cons_of_ne_nil hv.1
  exact ⟨e, r, rfl, hv.2 e List.mem_cons_self⟩

namespace Renumbered

theorem refl (a : List Char) : Renumbered a a := by
  induction a with
  | nil => exact nil
  | cons e r ih => exact cons e ih

theorem append (h : Renumbered a b) (h' : Renumbered c d) : Renumbered (a ++ c) (b ++ d) := by
  induction h with
  | nil => exact h'
  | cons e _ ih => exact cons e ih
  | numeral hv hw _ ih =>
    rw [List.append_assoc, List.append_assoc]
    exact numeral hv hw ih

theorem isEmpty_eq (h : Renumbered a b) : a.isEmpty = b.isEmpty := by
  cases h with
  | nil => rfl
  | cons e _ => rfl
  | numeral hv hw _ =>
    obtain ⟨e, r, rfl, -⟩ := hv.exists_cons
    obtain ⟨e', r', rfl, -⟩ := hw.exists_cons
    rfl

/-! ### Leaving out -/

theorem filter (hp : ∀ e, e.isDigit = true → p e = true) (h : Renumbered a b) :
    Renumbered (a.filter p) (b.filter p) := by
  induction h with
  | nil => exact nil
  | cons e _ ih =>
    rw [List.filter_cons, List.filter_cons]
    split
    · exact cons e ih
    · exact ih
  | numeral hv hw _ ih =>
    rw [List.filter_append, List.filter_append,
      List.filter_eq_self.mpr fun e he => hp e (hv.2 e he),
      List.filter_eq_self.mpr fun e he => hp e (hw.2 e he)]
    exact numeral hv hw ih

section Marks

variable (hp : ∀ e, e.isDigit = true → p e = false)
include hp

theorem dropWhile (h : Renumbered a b) : Renumbered (a.dropWhile p) (b.dropWhile p) := by
  induction h with
  | nil => exact nil
  | cons e h ih =>
    rw [List.dropWhile_cons, List.dropWhile_cons]
    split
    · exact ih
    · exact cons e h
  | numeral hv hw h _ =>
    have hstay : ∀ {v : List Char} (r : List Char), IsNumeral v →
        (v ++ r).dropWhile p = v ++ r := by
      intro v r hv
      obtain ⟨e, s, rfl, he⟩ := hv.exists_cons
      rw [List.cons_append, List.dropWhile_cons, hp e he]
      rfl
    rw [hstay _ hv, hstay _ hw]
    exact numeral hv hw h

theorem dropTailWhile (h : Renumbered a b) :
    Renumbered (Text.dropTailWhile p a) (Text.dropTailWhile p b) := by
  induction h with
  | nil => exact nil
  | @cons a b e _ ih =>
    have hempty := ih.isEmpty_eq
    rw [Text.dropTailWhile, Text.dropTailWhile]
    cases ha : Text.dropTailWhile p a with
    | nil =>
      rw [ha] at hempty
      rw [List.isEmpty_iff.mp hempty.symm]
      exact refl _
    | cons e' r =>
      rw [ha] at ih hempty
      obtain ⟨e'', r', hb⟩ := List.exists_cons_of_ne_nil
        (List.isEmpty_eq_false_iff.mp hempty.symm)
      rw [hb] at ih ⊢
      exact cons e ih
  | numeral hv hw _ ih =>
    rw [dropTailWhile_append (hv.not_of_mem hp), dropTailWhile_append (hw.not_of_mem hp)]
    exact numeral hv hw ih

theorem trimWhere (h : Renumbered a b) : Renumbered (Text.trimWhere p a) (Text.trimWhere p b) :=
  (h.dropWhile hp).dropTailWhile hp

/-! ### Cutting -/

theorem beforeFirst (h : Renumbered a b) :
    Renumbered (Text.beforeFirst p a) (Text.beforeFirst p b) := by
  induction h with
  | nil => exact nil
  | cons e _ ih =>
    rw [Text.beforeFirst, Text.beforeFirst, List.takeWhile_cons, List.takeWhile_cons]
    split
    · exact cons e ih
    · exact nil
  | numeral hv hw _ ih =>
    have hkept : ∀ {v : List Char} (r : List Char), IsNumeral v →
        Text.beforeFirst p (v ++ r) = v ++ Text.beforeFirst p r := fun r hv =>
      List.takeWhile_append_of_pos fun e he => by rw [hv.not_of_mem hp e he]; rfl
    rw [hkept _ hv, hkept _ hw]
    exact numeral hv hw ih

theorem afterFirst (h : Renumbered a b) :
    Option.Rel Renumbered (Text.afterFirst p a) (Text.afterFirst p b) := by
  induction h with
  | nil => exact Option.Rel.none
  | cons e h ih =>
    have hcons : ∀ r, Text.afterFirst p (e :: r) = if p e then some r else Text.afterFirst p r := by
      intro r
      rw [Text.afterFirst, List.dropWhile_cons]
      cases p e <;> rfl
    rw [hcons, hcons]
    split
    · exact Option.Rel.some h
    · exact ih
  | numeral hv hw _ ih =>
    have hkept : ∀ {v : List Char} (r : List Char), IsNumeral v →
        Text.afterFirst p (v ++ r) = Text.afterFirst p r := fun r hv => by
      rw [Text.afterFirst, List.dropWhile_append_of_pos fun e he => by
        rw [hv.not_of_mem hp e he]; rfl, ← Text.afterFirst]
    rw [hkept _ hv, hkept _ hw]
    exact ih

theorem splitWhere (h : Renumbered a b) :
    List.Forall₂ Renumbered (Text.splitWhere p a) (Text.splitWhere p b) := by
  induction h with
  | nil => exact List.Forall₂.cons nil List.Forall₂.nil
  | @cons a b e _ ih =>
    rw [Text.splitWhere, Text.splitWhere]
    split
    · exact List.Forall₂.cons nil ih
    · obtain ⟨piece, more, ha⟩ := List.exists_cons_of_ne_nil (splitWhere_ne_nil p a)
      obtain ⟨piece', more', hb⟩ := List.exists_cons_of_ne_nil (splitWhere_ne_nil p b)
      rw [ha, hb] at ih ⊢
      obtain ⟨hpiece, hmore⟩ := List.forall₂_cons.mp ih
      exact List.Forall₂.cons (cons e hpiece) hmore
  | @numeral v w a b hv hw _ ih =>
    obtain ⟨piece, more, ha⟩ := List.exists_cons_of_ne_nil (splitWhere_ne_nil p a)
    obtain ⟨piece', more', hb⟩ := List.exists_cons_of_ne_nil (splitWhere_ne_nil p b)
    have hjoin : ∀ {v r piece : List Char} {more : List (List Char)}, IsNumeral v →
        Text.splitWhere p r = piece :: more →
          Text.splitWhere p (v ++ r) = (v ++ piece) :: more := by
      intro v r piece more hv hr
      have hv : Text.splitWhere p v = [] ++ [v] := splitWhere_eq_singleton (hv.not_of_mem hp)
      exact splitWhere_append_of hv hr
    rw [hjoin hv ha, hjoin hw hb]
    rw [ha, hb] at ih
    obtain ⟨hpiece, hmore⟩ := List.forall₂_cons.mp ih
    exact List.Forall₂.cons (numeral hv hw hpiece) hmore

end Marks

theorem getD_nil {o o' : Option (List Char)} (h : Option.Rel Renumbered o o') :
    Renumbered (o.getD []) (o'.getD []) := by
  cases h with
  | none => exact nil
  | some h => exact h

/-- As many pieces of one text are not empty as of the other. -/
theorem length_filter_eq {l m : List (List Char)} (h : List.Forall₂ Renumbered l m) :
    (l.filter fun piece => !piece.isEmpty).length =
      (m.filter fun piece => !piece.isEmpty).length := by
  induction h with
  | nil => rfl
  | cons hpiece _ ih =>
    rw [List.filter_cons, List.filter_cons, hpiece.isEmpty_eq]
    split
    · exact congrArg (· + 1) ih
    · exact ih

end Renumbered
end Metasearch.Text
