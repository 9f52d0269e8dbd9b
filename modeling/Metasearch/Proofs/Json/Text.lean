import Metasearch.Json.Parser
import Metasearch.Json.Printer
import Mathlib.Tactic.SplitIfs

/-!
# Quoted text of JSON, written and read

A text is read in two steps: first its units up to the closing quote, each escape giving one, then
the characters of the units. What is written for a character is read as the one unit that it is, and
no character is half of a surrogate pair, so both steps give back what was written.

## Main results

* `readUnits_escaped`: one character.
* `readText_quoted`: a text, whatever follows it.
-/

namespace Metasearch.Json

open Metasearch.Number Metasearch.Text

/-- A control character in four hexadecimal digits. -/
theorem hex4?_control {n : Nat} (hn : n < 0x20) :
    hex4? '0' '0' (hexDigit (n / 16)) (hexDigit (n % 16)) = some n := by
  have all : ∀ n < 0x20, hex4? '0' '0' (hexDigit (n / 16)) (hexDigit (n % 16)) = some n := by
    decide
  exact all n hn

/-- A character that is not escaped is read as itself. -/
theorem readUnits_cons {c : Char} (hquote : c ≠ '"') (hback : c ≠ '\\') (hc : ¬c.toNat < 0x20)
    (r : List Char) : readUnits (c :: r) = (readUnits r).map fun p => (c.toNat :: p.1, p.2) := by
  rw [readUnits.eq_5 c r hquote (fun _ _ _ _ _ h _ => hback h) (fun _ _ h _ => hback h),
    if_neg (not_or.mpr ⟨hback, hc⟩)]
  cases readUnits r <;> rfl

/-- An escape of one letter is read as the character that it stands for. -/
theorem readUnits_simple {e c : Char} (he : simpleEscape? e = some c) (r : List Char) :
    readUnits ('\\' :: e :: r) = (readUnits r).map fun p => (c.toNat :: p.1, p.2) := by
  have hu : e ≠ 'u' := by
    rintro rfl
    simp [simpleEscape?] at he
  rw [readUnits.eq_4 e r fun _ _ _ _ _ h _ => hu h, he]
  cases readUnits r <;> rfl

/-- **A character that was written is read as one unit.** -/
theorem readUnits_escaped (c : Char) (r : List Char) :
    readUnits (escaped c ++ r) = (readUnits r).map fun p => (c.toNat :: p.1, p.2) := by
  rw [escaped]
  split_ifs with h₁ h₂ h₃ h₄ h₅ h₆ h₇ h₈
  iterate 7
    case pos => subst c; exact readUnits_simple rfl r
  case pos =>
    simp only [List.cons_append, List.nil_append, readUnits, hex4?_control h₈]
    cases readUnits r <;> rfl
  case neg => exact readUnits_cons h₁ h₂ h₈ r

/-- The units of a text up to its closing quote. -/
theorem readUnits_flatMap_escaped (s rest : List Char) :
    readUnits (s.flatMap escaped ++ '"' :: rest) = some (s.map Char.toNat, rest) := by
  induction s with
  | nil => simp [readUnits]
  | cons c s ih =>
    rw [List.flatMap_cons, List.append_assoc, readUnits_escaped, ih]
    rfl

/-- No character is half of a surrogate pair. -/
theorem not_isSurrogate (c : Char) :
    isHighSurrogate c.toNat = false ∧ isLowSurrogate c.toNat = false := by
  have hv : c.toNat.isValidChar := c.valid
  simp only [Nat.isValidChar] at hv
  simp only [isHighSurrogate, isLowSurrogate]
  constructor <;> simp <;> omega

/-- The characters of units that are characters. -/
theorem charsOfUnits_map (s : List Char) : charsOfUnits (s.map Char.toNat) = some s := by
  induction s with
  | nil => rfl
  | cons c s ih =>
    obtain ⟨hhigh, hlow⟩ := not_isSurrogate c
    cases s with
    | nil => simp [charsOfUnits, hhigh, hlow]
    | cons d s =>
      rw [List.map_cons] at ih
      simp [charsOfUnits, hhigh, hlow, ih]

/-- **A text that was written is read back.** -/
theorem readText_quoted (s : String) (rest : List Char) :
    readText (s.toList.flatMap escaped ++ '"' :: rest) = some (some s, rest) := by
  simp [readText, readUnits_flatMap_escaped, charsOfUnits_map]

end Metasearch.Json
