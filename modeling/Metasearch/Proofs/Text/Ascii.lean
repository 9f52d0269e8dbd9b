import Metasearch.Text.Space

/-!
# Facts about ASCII characters

A fact about each of the 128 ASCII characters can be looked up one by one. `forall_ascii` turns such
a look-up into a fact about characters of a text, and `imp_of_ascii` does so for one set of ASCII
characters within another.
-/

namespace Metasearch.Text

/-- What holds of all 128 ASCII characters holds of a character below 128. -/
theorem forall_ascii {p : Char → Bool} (h : ∀ n < 0x80, p (Char.ofNat n) = true) {c : Char}
    (hc : c.toNat < 0x80) : p c = true := by
  have := h c.toNat hc
  rwa [Char.ofNat_toNat] at this

theorem imp_of_ascii {p q : Char → Bool}
    (h : ∀ n < 0x80, (!p (Char.ofNat n) || q (Char.ofNat n)) = true) {c : Char}
    (hc : c.toNat < 0x80) (hp : p c = true) : q c = true := by
  have hall : (!p c || q c) = true := forall_ascii (p := fun c => !p c || q c) h hc
  rwa [hp, Bool.not_true, Bool.false_or] at hall

theorem toNat_lt_of_le {c d : Char} (hd : d.toNat < 0x80) (h : c.val ≤ d.val) : c.toNat < 0x80 :=
  Nat.lt_of_le_of_lt (UInt32.le_iff_toNat_le.mp h) hd

theorem toNat_lt_of_isUpper {c : Char} (h : c.isUpper) : c.toNat < 0x80 :=
  toNat_lt_of_le (d := 'Z') (by decide) (of_decide_eq_true h).2

theorem toNat_lt_of_isDigit {c : Char} (h : c.isDigit) : c.toNat < 0x80 :=
  toNat_lt_of_le (d := '9') (by decide) (of_decide_eq_true (Bool.and_eq_true_iff.mp h).2)

theorem toNat_lt_of_isAlphanum {c : Char} (h : c.isAlphanum) : c.toNat < 0x80 := by
  rcases Bool.or_eq_true_iff.mp h with h | h
  · rcases Bool.or_eq_true_iff.mp h with h | h
    · exact toNat_lt_of_isUpper h
    · exact toNat_lt_of_le (d := 'z') (by decide) (of_decide_eq_true (Bool.and_eq_true_iff.mp h).2)
  · exact toNat_lt_of_isDigit h

theorem isAlphanum_of_isAlpha {c : Char} (h : c.isAlpha = true) : c.isAlphanum = true :=
  Bool.or_eq_true_iff.mpr (Or.inl h)

theorem isAlphanum_of_isDigit {c : Char} (h : c.isDigit = true) : c.isAlphanum = true :=
  Bool.or_eq_true_iff.mpr (Or.inr h)

/-- No letter and no digit is white space. -/
theorem isSpace_eq_false_of_isAlphanum {c : Char} (h : c.isAlphanum = true) :
    isSpace c = false := by
  have hspace := imp_of_ascii (q := fun c => !isSpace c) (by decide) (toNat_lt_of_isAlphanum h) h
  simpa using hspace

/-- No letter is a digit. -/
theorem isDigit_eq_false_of_isAlpha {c : Char} (h : c.isAlpha = true) : c.isDigit = false := by
  have hdigit := imp_of_ascii (q := fun c => !c.isDigit) (by decide)
    (toNat_lt_of_isAlphanum (isAlphanum_of_isAlpha h)) h
  simpa using hdigit

theorem toLower_eq_self {c : Char} (h : c.isUpper = false) : c.toLower = c :=
  dif_neg (of_decide_eq_false h)

end Metasearch.Text
