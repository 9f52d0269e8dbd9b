import Metasearch.Json.Number
import Metasearch.Json.Parser
import Metasearch.Json.Printer
import Metasearch.Proofs.Number.Decimal
import Metasearch.Proofs.Number.Digits
import Mathlib.Data.List.TakeWhile
import Mathlib.Tactic.SplitIfs

/-!
# Numbers of JSON, written and read

A number ends at the first character that cannot belong to it, so what is read of a number alone is
read of it in front of anything that may follow a value (`readNumber_append`). Integers of 64 bits
are read back. Of a double that much is asked as `ReadsBack`: the reader of numbers rounds more
than once, and not every double survives that.

## Main definitions

* `Stops`: what may follow a value.
* `ReadsBack`: a double that is read back from its own text.

## Main results

* `readNumber_intText`, `readNumber_floatText`.
-/

namespace Metasearch.Json

open Metasearch.Number

variable {c : Char} {s t rest : List Char} {negative : Bool} {n : Nat} {i : Int} {x : Double}
  {d : Data}

/-! ### What follows a value -/

/-- Holds of white space and of what goes on or ends a sequence or table. -/
def isStop (c : Char) : Bool :=
  isBlank c || c == ',' || c == ']' || c == '\x7d'

/-- A text that may follow a value. -/
def Stops (s : List Char) : Prop :=
  ∀ c ∈ s.head?, isStop c = true

theorem stops_nil : Stops [] := by
  simp [Stops]

theorem stops_cons (hc : isStop c = true) (s : List Char) : Stops (c :: s) := by
  simpa [Stops] using hc

/-- None of the marks of a number is a stop. -/
theorem of_isStop (hc : isStop c = true) :
    c.isDigit = false ∧ c ≠ '.' ∧ c ≠ 'e' ∧ c ≠ 'E' := by
  simp only [isStop, isBlank, Bool.or_eq_true, beq_iff_eq] at hc
  rcases hc with (((((rfl | rfl) | rfl) | rfl) | rfl) | rfl) | rfl <;> decide

/-! ### Parts of a number -/

theorem spanDigits_append_stops (s : List Char) (hrest : Stops rest) :
    spanDigits (s ++ rest) = ((spanDigits s).1, (spanDigits s).2 ++ rest) := by
  obtain ⟨digits, t, h⟩ : ∃ digits t, spanDigits s = (digits, t) := ⟨_, _, rfl⟩
  obtain ⟨rfl, hdigits, hhead⟩ := spanDigits_eq_iff.mp h
  rw [h]
  refine spanDigits_eq_iff.mpr ⟨List.append_assoc _ _ _, hdigits, ?_⟩
  cases t with
  | nil => exact fun c hc => (of_isStop (hrest c hc)).1
  | cons d t => exact hhead

theorem readWhole_append {whole : List Char} (h : readWhole s = some (whole, t))
    (hrest : Stops rest) : readWhole (s ++ rest) = some (whole, t ++ rest) := by
  rw [readWhole, spanDigits_append_stops s hrest]
  rw [readWhole] at h
  split at h <;> simp_all

theorem readFraction_of_ne (hc : c ≠ '.') (s : List Char) :
    readFraction (c :: s) = some (none, c :: s) := by
  rw [readFraction]
  rintro r heq
  exact hc (List.cons.inj heq).1

theorem readFraction_append {fraction : Option (List Char)}
    (h : readFraction s = some (fraction, t)) (hrest : Stops rest) :
    readFraction (s ++ rest) = some (fraction, t ++ rest) := by
  cases s with
  | nil =>
    cases h
    cases rest with
    | nil => rfl
    | cons c r => exact readFraction_of_ne (of_isStop (hrest c rfl)).2.1 r
  | cons c r =>
    by_cases hc : c = '.'
    · subst hc
      rw [List.cons_append, readFraction, spanDigits_append_stops r hrest]
      rw [readFraction] at h
      split at h <;> simp_all
    · rw [readFraction_of_ne hc] at h
      cases h
      exact readFraction_of_ne hc (r ++ rest)

theorem readExponentDigits_append {down : Bool} {exponent : Option (Bool × List Char)}
    (h : readExponentDigits down s = some (exponent, t)) (hrest : Stops rest) :
    readExponentDigits down (s ++ rest) = some (exponent, t ++ rest) := by
  rw [readExponentDigits, spanDigits_append_stops s hrest]
  rw [readExponentDigits] at h
  split at h <;> simp_all

/-- An exponent has a character after its letter, so its sign is not sought in what follows. -/
theorem readExponent_append {exponent : Option (Bool × List Char)}
    (h : readExponent s = some (exponent, t)) (hrest : Stops rest) :
    readExponent (s ++ rest) = some (exponent, t ++ rest) := by
  cases s with
  | nil =>
    cases h
    cases rest with
    | nil => rfl
    | cons c r =>
      obtain ⟨-, -, he, hE⟩ := of_isStop (hrest c rfl)
      simp [readExponent, he, hE]
  | cons c r =>
    by_cases hc : c = 'e' ∨ c = 'E'
    · cases r with
      | nil => simp [readExponent, hc, readExponentDigits, spanDigits] at h
      | cons e r =>
        simp only [List.cons_append, readExponent, if_pos hc] at h ⊢
        split at h <;> have hdigits := readExponentDigits_append h hrest <;> simp_all
    · simp only [List.cons_append, readExponent, if_neg hc] at h ⊢
      cases h
      rfl

theorem readNumber_of_ne (hc : c ≠ '-') (s : List Char) :
    readNumber (c :: s) = readUnsigned false (c :: s) := by
  rw [readNumber]
  rintro r heq
  exact hc (List.cons.inj heq).1

/-- **A number is read the same in front of anything that may follow a value.** -/
theorem readNumber_append (h : readNumber s = some (d, t)) (hrest : Stops rest) :
    readNumber (s ++ rest) = some (d, t ++ rest) := by
  have hunsigned : ∀ {negative : Bool} {s : List Char}, readUnsigned negative s = some (d, t) →
      readUnsigned negative (s ++ rest) = some (d, t ++ rest) := by
    intro negative s h
    simp only [readUnsigned, Option.bind_eq_bind, Option.bind_eq_some_iff] at h
    obtain ⟨⟨whole, s₁⟩, hwhole, ⟨fraction, s₂⟩, hfraction, ⟨exponent, s₃⟩, hexponent, h⟩ := h
    cases h
    simp [readUnsigned, readWhole_append hwhole hrest, readFraction_append hfraction hrest,
      readExponent_append hexponent hrest]
  cases s with
  | nil => simp [readNumber, readUnsigned, readWhole, spanDigits] at h
  | cons c s =>
    by_cases hc : c = '-'
    · subst hc
      exact hunsigned h
    · rw [readNumber_of_ne hc] at h
      rw [List.cons_append, readNumber_of_ne hc]
      exact hunsigned h

/-! ### Integers -/

/-- Digits are all taken into a significand that is not too large. -/
theorem absorb_eq (h : valueFrom n s ≤ maxSignificand) : absorb n s = (valueFrom n s, []) := by
  induction s generalizing n with
  | nil => rfl
  | cons c s ih =>
    have hle : n * 10 + digitValue c ≤ maxSignificand := Nat.le_trans (le_valueFrom _ s) h
    rw [absorb, if_neg (by omega)]
    exact ih h

theorem readWhole_numeral (n : Nat) : readWhole (numeral n) = some (numeral n, []) := by
  have hspan : spanDigits (numeral n ++ []) = (numeral n, []) :=
    spanDigits_append (fun c hc => isDigit_of_mem_numeral hc) (by simp)
  rw [List.append_nil] at hspan
  rw [readWhole, hspan]
  split
  · exact absurd (by simp_all) (numeral_ne_nil n)
  · rename_i c r t heq
    rcases Nat.eq_zero_or_pos n with rfl | hn
    · simp [numeral_zero] at heq
    · refine absurd ?_ (head?_numeral hn)
      simp_all
  · simp_all

theorem readUnsigned_numeral (negative : Bool) (n : Nat) : readUnsigned negative (numeral n) =
    some (Numeral.read ⟨negative, numeral n, none, none⟩, []) := by
  simp [readUnsigned, readWhole_numeral, readFraction, readExponent]

theorem absorb_numeral (h : n ≤ maxSignificand) : absorb 0 (numeral n) = (n, []) := by
  have hvalue : valueFrom 0 (numeral n) = n := value_numeral n
  rw [absorb_eq (by rwa [hvalue]), hvalue]

/-- **An integer of 64 bits is read back.** -/
theorem readNumber_intText (hlow : Data.minSigned ≤ i) (hhigh : i ≤ Data.maxUnsigned)
    (hrest : Stops rest) : readNumber (intText i ++ rest) = some (.int i, rest) := by
  refine readNumber_append (t := []) ?_ hrest
  simp only [Data.minSigned, Data.maxUnsigned] at hlow hhigh
  rw [intText]
  split_ifs with hi
  · have hread : Numeral.read ⟨true, numeral i.natAbs, none, none⟩ = .int i := by
      rw [Numeral.read, absorb_numeral (by rw [maxSignificand]; omega)]
      have hpos : i.natAbs ≠ 0 := by omega
      have hle : i.natAbs ≤ 9223372036854775808 := by omega
      simp only [List.isEmpty_nil, Option.isSome_none, Bool.not_true, Bool.or_false, hpos, hle,
        if_true, if_false, Bool.false_eq_true, Data.int.injEq]
      omega
    rw [readNumber, readUnsigned_numeral, hread]
  · have hread : Numeral.read ⟨false, numeral i.natAbs, none, none⟩ = .int i := by
      rw [Numeral.read, absorb_numeral (by rw [maxSignificand]; omega)]
      simp only [List.isEmpty_nil, Option.isSome_none, Bool.not_true, Bool.or_false,
        Bool.not_false, if_true, if_false, Bool.false_eq_true, Data.int.injEq]
      omega
    rw [readNumber, readUnsigned_numeral, hread]
    intro r hr
    exact absurd (isDigit_of_mem_numeral (hr ▸ List.mem_cons_self)) (by decide)

/-! ### Doubles -/

theorem suffix_of_spanDigits {digits : List Char} (h : spanDigits s = (digits, t)) : t <:+ s :=
  (spanDigits_eq_iff.mp h).1 ▸ List.suffix_append digits t

theorem suffix_of_readWhole {whole : List Char} (h : readWhole s = some (whole, t)) : t <:+ s := by
  rw [readWhole] at h
  split at h
  · exact absurd h (by simp)
  · exact absurd h (by simp)
  · rename_i hspan
    cases h
    exact suffix_of_spanDigits hspan

theorem suffix_of_readFraction {fraction : Option (List Char)}
    (h : readFraction s = some (fraction, t)) : t <:+ s := by
  rw [readFraction.eq_def] at h
  split at h
  · split at h
    · exact absurd h (by simp)
    · rename_i hspan
      cases h
      exact (suffix_of_spanDigits hspan).trans (List.suffix_cons _ _)
  · cases h
    exact List.suffix_refl _

theorem suffix_of_readExponent {exponent : Option (Bool × List Char)}
    (h : readExponent s = some (exponent, t)) : t <:+ s := by
  have hdigits : ∀ {down s}, readExponentDigits down s = some (exponent, t) → t <:+ s := by
    intro down s h
    rw [readExponentDigits] at h
    split at h
    · exact absurd h (by simp)
    · rename_i hspan
      cases h
      exact suffix_of_spanDigits hspan
  rw [readExponent.eq_def] at h
  split at h
  · split_ifs at h
    · have hdrop : ∀ c : Char, ∀ r : List Char, r <:+ c :: r := List.suffix_cons
      split at h
      · exact (hdigits h).trans ((hdrop _ _).trans (hdrop _ _))
      · exact (hdigits h).trans ((hdrop _ _).trans (hdrop _ _))
      · exact (hdigits h).trans (hdrop _ _)
    · cases h
      exact List.suffix_refl _
  · cases h
    exact List.suffix_refl _

/-- What is left of a number is the end of its text. -/
theorem suffix_of_readNumber (h : readNumber s = some (d, t)) : t <:+ s := by
  have hunsigned : ∀ {negative : Bool} {s : List Char}, readUnsigned negative s = some (d, t) →
      t <:+ s := by
    intro negative s h
    simp only [readUnsigned, Option.bind_eq_bind, Option.bind_eq_some_iff] at h
    obtain ⟨⟨whole, s₁⟩, h₁, ⟨fraction, s₂⟩, h₂, ⟨exponent, s₃⟩, h₃, h⟩ := h
    cases h
    exact (suffix_of_readExponent h₃).trans
      ((suffix_of_readFraction h₂).trans (suffix_of_readWhole h₁))
  rw [readNumber.eq_def] at h
  split at h
  · exact (hunsigned h).trans (List.suffix_cons _ _)
  · exact hunsigned h

/-- Holds of the characters that doubles are written with. -/
def isNumberMark (c : Char) : Bool :=
  c.isDigit || c == '.' || c == 'e' || c == '-'

theorem of_isNumberMark (hc : isNumberMark c = true) : isBlank c = false ∧ c ≠ '"' ∧ c ≠ '[' ∧
    c ≠ '\x7b' ∧ c ≠ 'n' ∧ c ≠ 't' ∧ c ≠ 'f' := by
  refine ⟨?_, ?_, ?_, ?_, ?_, ?_, ?_⟩
  · simp only [isBlank, Bool.or_eq_false_iff, beq_eq_false_iff_ne]
    refine ⟨⟨⟨?_, ?_⟩, ?_⟩, ?_⟩ <;> rintro rfl <;> exact absurd hc (by decide)
  all_goals
    rintro rfl
    exact absurd hc (by decide)

theorem all_isNumberMark (h : ∀ c ∈ s, c.isDigit = true) : s.all isNumberMark = true :=
  List.all_eq_true.mpr fun c hc => by simp [isNumberMark, h c hc]

theorem all_isNumberMark_intText (i : Int) : (intText i).all isNumberMark = true := by
  have hnumeral : (numeral i.natAbs).all isNumberMark = true :=
    all_isNumberMark fun _ => isDigit_of_mem_numeral
  rw [intText]
  split_ifs
  · exact hnumeral
  · exact hnumeral

theorem all_isNumberMark_exponential {d : Digits} (hd : ∀ c ∈ d.digits, c.isDigit = true) :
    (exponential d).all isNumberMark = true := by
  have hexponent : ('e' :: intText (d.point - 1)).all isNumberMark = true :=
    all_isNumberMark_intText (d.point - 1)
  have hdigits := all_isNumberMark hd
  rw [exponential]
  split
  · exact hexponent
  · simp_all
  · simp_all [isNumberMark]

theorem all_isNumberMark_floatText (hx : x.isFinite = true) :
    (floatText x).all isNumberMark = true := by
  have hsign : (signText x).all isNumberMark = true := by
    rw [signText]
    split <;> rfl
  have hdigits : ∀ c ∈ (shortest x).digits, c.isDigit = true := fun _ => isDigit_of_mem_shortest
  have hwhole := all_isNumberMark fun c hc => isDigit_of_mem_split (c := c) hdigits (.inl hc)
  have hfraction := all_isNumberMark fun c hc => isDigit_of_mem_split (c := c) hdigits (.inr hc)
  rw [floatText, if_neg (by simp [hx])]
  simp only
  split_ifs
  · rw [List.all_append, hsign]
    rfl
  · split
    · rename_i heq
      rw [heq] at hwhole
      rw [List.all_append, List.all_append, hsign, hwhole]
      rfl
    · rename_i heq
      rw [heq] at hwhole hfraction
      rw [List.all_append, List.all_append, List.all_cons, hsign, hwhole, hfraction]
      rfl
  · rw [List.all_append, hsign, all_isNumberMark_exponential hdigits]
    rfl

/-- A double that is read back from its own text. -/
def ReadsBack (x : Double) : Prop :=
  parse? (floatText x) = some (.float x)

/-- Holds of a document that denotes a given double. -/
def denotesFloat (x : Double) : Option Data → Bool
  | some (.float y) => y == x
  | _ => false

theorem denotesFloat_iff {o : Option Data} : denotesFloat x o = true ↔ o = some (.float x) := by
  unfold denotesFloat
  split <;> simp_all

instance : DecidablePred ReadsBack :=
  fun x => decidable_of_iff (denotesFloat x (parse? (floatText x)) = true) denotesFloat_iff

/-- What is not finite is written as nothing. -/
theorem ReadsBack.isFinite (h : ReadsBack x) : x.isFinite = true := by
  by_contra hx
  have hnull : parse? ['n', 'u', 'l', 'l'] = some .null := rfl
  rw [ReadsBack, floatText, if_pos (by simp [hx]), hnull] at h
  exact absurd h (by simp)

/-- A number starts with a sign or a digit. -/
theorem of_readNumber {p : Data × List Char} (h : readNumber (c :: s) = some p) :
    c = '-' ∨ c.isDigit = true := by
  by_cases hc : c = '-'
  · exact .inl hc
  · right
    by_contra hdigit
    simp [readNumber_of_ne hc, readUnsigned, readWhole, spanDigits, hdigit] at h

/-- What starts as neither a text nor a sequence nor a table is a number or a word. -/
theorem readValue_of_ne {fuel depth : Nat} {r : List Char} (hskip : skipBlank s = c :: r)
    (hquote : c ≠ '"') (hlist : c ≠ '[') (htable : c ≠ '\x7b') :
    readValue (fuel + 1) depth s =
      if c = '-' ∨ c.isDigit then readNumber (c :: r) else readWord (c :: r) := by
  rw [readValue, hskip]
  split <;> simp_all

/-- The number that is read of a text of nothing but number marks is all that is read of it. -/
theorem readNumber_of_parse? (hs : s.all isNumberMark = true) (h : parse? s = some d) :
    readNumber s = some (d, []) := by
  have hmark : ∀ c ∈ s, isBlank c = false ∧ c ≠ '"' ∧ c ≠ '[' ∧ c ≠ '\x7b' ∧ c ≠ 'n' ∧ c ≠ 't' ∧
      c ≠ 'f' := fun c hc => of_isNumberMark (List.all_eq_true.mp hs c hc)
  simp only [parse?, Option.bind_eq_bind, Option.bind_eq_some_iff] at h
  obtain ⟨⟨d', t⟩, hvalue, h⟩ := h
  obtain ⟨hblank, rfl⟩ : (skipBlank t).isEmpty = true ∧ d' = d := by simpa using h
  cases s with
  | nil => simp [readValue, skipBlank] at hvalue
  | cons c r =>
    obtain ⟨hc, hquote, hlist, htable, hn, ht, hf⟩ := hmark c List.mem_cons_self
    have hskip : skipBlank (c :: r) = c :: r := by simp [skipBlank, hc]
    have hword : readWord (c :: r) = none := by
      rw [readWord] <;> simp_all
    rw [readValue_of_ne hskip hquote hlist htable, hword] at hvalue
    split_ifs at hvalue
    have hblanks : ∀ c ∈ t, isBlank c = true := by
      simpa [skipBlank, List.dropWhile_eq_nil_iff] using hblank
    have hnil : t = [] := by
      refine List.eq_nil_iff_forall_not_mem.mpr fun c hc => ?_
      have := (hmark c ((suffix_of_readNumber hvalue).subset hc)).1
      simp [hblanks c hc] at this
    rw [hvalue, hnil]

/-- **A double that is read back from its own text is read back in front of what may follow.** -/
theorem readNumber_floatText (h : ReadsBack x) (hrest : Stops rest) :
    readNumber (floatText x ++ rest) = some (.float x, rest) :=
  readNumber_append (readNumber_of_parse? (all_isNumberMark_floatText h.isFinite) h) hrest

end Metasearch.Json
