import Metasearch.Proofs.Number.Digits
import Metasearch.Proofs.Number.Shortest
import Metasearch.Proofs.Text.Ascii
import Metasearch.Toml.Parser
import Metasearch.Toml.Printer

/-!
# Numbers and words of TOML, written and read

A number is written as digits, perhaps with a sign in front and a point between them. Such a run is
never a date, and it is an integer exactly if it has no point. A double is read back because the
digits it is written with are those of a number that is rounded to it.

## Main definitions

* `Ends`: what may follow a value.
* `IsRun`: a run of characters that denotes a value.

## Main results

* `IsRun.readRun_append`: a run is read up to what ends it.
* `readScalar?_signed`: a number is an integer or has a point.
* `isRun_bool`, `isRun_intText`, `isRun_floatText`: values are written as runs that denote them.
-/

namespace Metasearch.Toml

open Metasearch.Number Metasearch.Text

variable {c : Char} {s t rest whole fraction : List Char} {negative : Bool} {d : Data} {i : Int}
  {x : Double}

/-! ### Runs -/

/-- Holds of the end of a line and of what goes on or ends a sequence. -/
def isEnd (c : Char) : Bool :=
  c == '\n' || c == ',' || c == ']'

/-- A text that may follow a value. -/
def Ends (s : List Char) : Prop :=
  ∃ c r, s = c :: r ∧ isEnd c = true

theorem Ends.head?_ne (h : Ends rest) (hc : isEnd c = false) : rest.head? ≠ some c := by
  obtain ⟨d, r, rfl, hd⟩ := h
  rintro ⟨⟩
  exact absurd hd (by simp [hc])

/-- A run of characters that denotes a value. -/
structure IsRun (s : List Char) (d : Data) : Prop where
  /-- There is a character. -/
  nonempty : s ≠ []
  /-- All belong to a run. -/
  marks : ∀ c ∈ s, isScalarChar c = true
  /-- What the run denotes. -/
  denotes : readScalar? s = some d

theorem isRun_bool (b : Bool) :
    IsRun (if b then "true".toList else "false".toList) (.bool b) := by
  cases b
  · exact ⟨by decide, List.all_eq_true.mp rfl, rfl⟩
  · exact ⟨by decide, List.all_eq_true.mp rfl, rfl⟩

/-- **A run is read up to what ends it.** -/
theorem IsRun.readRun_append (h : IsRun s d) (hrest : Ends rest) :
    readRun (s ++ rest) = some (d, rest) := by
  obtain ⟨c, r, rfl, hc⟩ := hrest
  have hstop : isScalarChar c = false := by
    simp only [isEnd, Bool.or_eq_true, beq_iff_eq] at hc
    rcases hc with (rfl | rfl) | rfl <;> decide
  have hspace : c ≠ ' ' := by
    rintro rfl
    exact absurd hc (by decide)
  have htake : (s ++ c :: r).takeWhile isScalarChar = s := by
    simp [List.takeWhile_append_of_pos h.marks, hstop]
  have hdrop : (s ++ c :: r).dropWhile isScalarChar = c :: r := by
    simp [List.dropWhile_append_of_pos h.marks, hstop]
  simp [readRun, htake, hdrop, hspace, h.denotes]

/-! ### Digits -/

/-- Digits without underscores are taken as they are. -/
theorem ungroup?_eq_self (hne : s ≠ []) (hs : ∀ c ∈ s, c.isDigit = true) :
    ungroup? Char.isDigit s = some s := by
  induction s with
  | nil => exact absurd rfl hne
  | cons c r ih =>
    have hc := hs c List.mem_cons_self
    have hr : ∀ c ∈ r, c.isDigit = true := fun c h => hs c (List.mem_cons_of_mem _ h)
    cases r with
    | nil => rw [ungroup?, if_pos hc]
    | cons d r =>
      have hd : d ≠ '_' := by
        rintro rfl
        exact absurd (hr '_' List.mem_cons_self) (by decide)
      rw [ungroup?, if_pos hc, ih (List.cons_ne_nil _ _) hr]
      · rfl
      · exact List.cons_ne_nil d r
      · rintro r' heq
        exact hd (List.cons.inj heq).1

/-- Nothing but digits and underscores is a group of digits. -/
theorem of_ungroup? {p : Char → Bool} (h : ungroup? p s = some t) :
    ∀ c ∈ s, p c = true ∨ c = '_' := by
  induction s using ungroup?.induct p generalizing t with
  | case1 => exact List.forall_mem_nil _
  | case2 c hc => simpa using .inl hc
  | case3 c hc => simp [ungroup?, hc] at h
  | case4 c r hc ih =>
    obtain ⟨t, ht, -⟩ : ∃ t', ungroup? p r = some t' ∧ c :: t' = t := by
      simpa [ungroup?, hc] using h
    simpa [hc] using ih ht
  | case5 c r hc => simp [ungroup?, hc] at h
  | case6 c r hne hgroup hc ih =>
    rw [ungroup?, if_pos hc, Option.map_eq_some_iff] at h
    · obtain ⟨t, ht, -⟩ := h
      exact List.forall_mem_cons.mpr ⟨.inl hc, ih ht⟩
    · exact hne
    · exact hgroup
  | case7 c r hne hgroup hc =>
    rw [ungroup?, if_neg hc] at h
    · cases h
    · exact hne
    · exact hgroup

theorem wholeDigits?_eq_self (hne : s ≠ []) (hs : ∀ c ∈ s, c.isDigit = true)
    (hzero : s = ['0'] ∨ s.head? ≠ some '0') : wholeDigits? s = some s := by
  rw [wholeDigits?, ungroup?_eq_self hne hs]
  split
  · rename_i heq
    cases heq
    rcases hzero with h | h
    · cases h
    · exact absurd rfl h
  · rfl

theorem wholeDigits?_numeral (n : Nat) : wholeDigits? (numeral n) = some (numeral n) := by
  refine wholeDigits?_eq_self (numeral_ne_nil n) (fun c => isDigit_of_mem_numeral) ?_
  rcases Nat.eq_zero_or_pos n with rfl | hn
  · exact .inl numeral_zero
  · exact .inr (head?_numeral hn)

theorem wholeDigits?_eq_none (h : '.' ∈ s) : wholeDigits? s = none := by
  have hnone : ungroup? Char.isDigit s = none := by
    refine Option.eq_none_iff_forall_ne_some.mpr fun t ht => ?_
    rcases of_ungroup? ht '.' h with hdot | hdot <;> exact absurd hdot (by decide)
  rw [wholeDigits?, hnone]

/-! ### Dates -/

theorem of_readTwo? {n : Nat} (h : readTwo? s = some (n, t)) : ∃ a b, s = a :: b :: t := by
  rw [readTwo?.eq_def] at h
  split at h
  · split at h
    · cases h
      exact ⟨_, _, rfl⟩
    · cases h
  · cases h

/-- Dates and times have marks that no number has. -/
theorem of_isDateTime (h : isDateTime s = true) : '-' ∈ s.tail ∨ ':' ∈ s.tail := by
  cases hdate : readDate? s with
  | none =>
    rw [isDateTime, hdate] at h
    simp only [isTime] at h
    split at h
    · rename_i htwo
      obtain ⟨a, b, rfl⟩ := of_readTwo? htwo
      simp
    · cases h
  | some r =>
    simp only [readDate?, Option.bind_eq_bind, Option.bind_eq_some_iff] at hdate
    obtain ⟨⟨n, r₁⟩, h₁, ⟨n₂, r₂⟩, h₂, hdate⟩ := hdate
    obtain ⟨a, b, rfl⟩ := of_readTwo? h₁
    obtain ⟨c, d, rfl⟩ := of_readTwo? h₂
    split at hdate
    · rename_i heq
      obtain rfl : r₂ = _ := heq
      simp
    · cases hdate

/-! ### Numbers -/

/-- Holds of the characters of a number without its sign. -/
def isNumberChar (c : Char) : Bool :=
  c.isDigit || c == '.'

theorem isNumberChar_of_isDigit (hc : c.isDigit = true) : isNumberChar c = true := by
  simp [isNumberChar, hc]

theorem isScalarChar_of_isNumberChar (hc : isNumberChar c = true) : isScalarChar c = true := by
  simp only [isNumberChar, Bool.or_eq_true] at hc
  rcases hc with hc | hc <;> simp [isScalarChar, isBare, Char.isAlphanum, hc]

theorem not_mem_of_isNumberChar (hs : ∀ c ∈ s, isNumberChar c = true)
    (hc : isNumberChar c = false) : c ∉ s := fun h =>
  absurd (hs c h) (by simp [hc])

/-- A number with its sign. -/
def signed (negative : Bool) (s : List Char) : List Char :=
  if negative then '-' :: s else s

theorem splitSign_signed (hs : ∀ c ∈ s, isNumberChar c = true) :
    splitSign (signed negative s) = (negative, s) := by
  cases negative with
  | true => rfl
  | false =>
    rw [signed, if_neg Bool.false_ne_true, splitSign]
    · rintro r rfl
      exact not_mem_of_isNumberChar hs (by decide) (List.mem_cons_self (a := '+'))
    · rintro r rfl
      exact not_mem_of_isNumberChar hs (by decide) (List.mem_cons_self (a := '-'))

theorem isRun_signed (hne : s ≠ []) (hs : ∀ c ∈ s, isNumberChar c = true)
    (h : readScalar? (signed negative s) = some d) : IsRun (signed negative s) d := by
  have hscalar : ∀ c ∈ s, isScalarChar c = true := fun c hc =>
    isScalarChar_of_isNumberChar (hs c hc)
  cases negative with
  | true => exact ⟨List.cons_ne_nil _ _, List.forall_mem_cons.mpr ⟨by decide, hscalar⟩, h⟩
  | false => exact ⟨hne, hscalar, h⟩

/-- A number is in base ten. -/
theorem readInteger?_signed (hs : ∀ c ∈ s, isNumberChar c = true) :
    readInteger? (signed negative s) = (wholeDigits? s).bind fun digits =>
      fitting? (if negative then -(value digits : Int) else value digits) := by
  have hbase : ∀ (c : Char) (r : List Char), isNumberChar c = false →
      signed negative s ≠ '0' :: c :: r := by
    intro c r hc heq
    refine not_mem_of_isNumberChar hs hc ?_
    cases negative with
    | true => cases heq
    | false =>
      obtain rfl : s = _ := heq
      simp
  rw [readInteger?, splitSign_signed hs]
  · rfl
  · exact fun r heq => hbase 'x' r (by decide) heq
  · exact fun r heq => hbase 'o' r (by decide) heq
  · exact fun r heq => hbase 'b' r (by decide) heq

theorem readFloat?_signed (hs : ∀ c ∈ s, isNumberChar c = true) :
    readFloat? (signed negative s) = readDecimal? negative s := by
  rw [readFloat?, splitSign_signed hs]
  split
  · rename_i heq
    cases heq
    exact absurd (List.mem_cons_self (a := 'i')) (not_mem_of_isNumberChar hs (by decide))
  · rename_i heq
    cases heq
    exact absurd (List.mem_cons_self (a := 'n')) (not_mem_of_isNumberChar hs (by decide))
  · rename_i heq
    cases heq
    rfl

/-- **A number is an integer or has a point.** -/
theorem readScalar?_signed (hs : ∀ c ∈ s, isNumberChar c = true) :
    readScalar? (signed negative s) = ((wholeDigits? s).bind fun digits =>
      fitting? (if negative then -(value digits : Int) else value digits)).or
        ((readDecimal? negative s).map .float) := by
  have hword : ∀ {c : Char} {r : List Char}, isNumberChar c = false → c ≠ '-' →
      signed negative s ≠ c :: r := by
    intro c r hc hminus heq
    cases negative with
    | true => exact hminus (List.cons.inj heq).1.symm
    | false =>
      obtain rfl : s = _ := heq
      exact not_mem_of_isNumberChar hs hc List.mem_cons_self
  have hdate : isDateTime (signed negative s) = false := by
    refine Bool.eq_false_iff.mpr fun h => ?_
    have htail : ∀ c ∈ (signed negative s).tail, isNumberChar c = true := by
      cases negative with
      | true => exact hs
      | false => exact fun c hc => hs c (List.mem_of_mem_tail hc)
    rcases of_isDateTime h with h | h
    · exact absurd (htail '-' h) (by decide)
    · exact absurd (htail ':' h) (by decide)
  have htrue : "true".toList = ['t', 'r', 'u', 'e'] := rfl
  have hfalse : "false".toList = ['f', 'a', 'l', 's', 'e'] := rfl
  rw [readScalar?, htrue, hfalse, if_neg (hword (by decide) (by decide)),
    if_neg (hword (by decide) (by decide)), hdate, if_neg Bool.false_ne_true,
    readInteger?_signed hs, readFloat?_signed hs]

/-- **An integer of 63 bits and a sign is read back.** -/
theorem isRun_intText (hlow : Data.minSigned ≤ i) (hhigh : i ≤ Data.maxSigned) :
    IsRun (Json.intText i) (.int i) := by
  have htext : Json.intText i = signed (decide (i < 0)) (numeral i.natAbs) := by
    simp [Json.intText, signed]
  have hvalue : (if decide (i < 0) = true then -(i.natAbs : Int) else (i.natAbs : Int)) = i := by
    split_ifs with hi
    · have := of_decide_eq_true hi
      omega
    · have := not_lt.mp fun h => hi (decide_eq_true h)
      omega
  have hs : ∀ c ∈ numeral i.natAbs, isNumberChar c = true := fun c hc =>
    isNumberChar_of_isDigit (isDigit_of_mem_numeral hc)
  rw [htext]
  refine isRun_signed (numeral_ne_nil _) hs ?_
  rw [readScalar?_signed hs, wholeDigits?_numeral, Option.bind_some, value_numeral, hvalue, fitting?,
    if_pos ⟨hlow, hhigh⟩]
  rfl

theorem readDecimal?_point (hwhole : wholeDigits? whole = some whole)
    (hw : ∀ c ∈ whole, c.isDigit = true) (hne : fraction ≠ [])
    (hf : ∀ c ∈ fraction, c.isDigit = true) : readDecimal? negative (whole ++ '.' :: fraction) =
      let x := Double.ofDecimal negative (value (whole ++ fraction)) (0 - fraction.length)
      if x == Double.infinity false then none else some x := by
  have hs : ∀ c ∈ whole ++ '.' :: fraction, isNumberChar c = true := by
    simp only [List.forall_mem_append, List.forall_mem_cons]
    exact ⟨fun c hc => isNumberChar_of_isDigit (hw c hc), by decide,
      fun c hc => isNumberChar_of_isDigit (hf c hc)⟩
  have hexponent : splitExponent (whole ++ '.' :: fraction) = (whole ++ '.' :: fraction, none) := by
    have hmark : ∀ c ∈ whole ++ '.' :: fraction, (!(c == 'e' || c == 'E')) = true := by
      intro c hc
      have he : c ≠ 'e' := fun h => not_mem_of_isNumberChar hs (by decide) (h ▸ hc)
      have hE : c ≠ 'E' := fun h => not_mem_of_isNumberChar hs (by decide) (h ▸ hc)
      simp [he, hE]
    rw [splitExponent, List.dropWhile_eq_nil_iff.mpr hmark]
  have hpoint : ∀ c ∈ whole, (!(c == '.')) = true := by
    intro c hc
    have hdot : c ≠ '.' := by
      rintro rfl
      exact absurd (hw '.' hc) (by decide)
    simp [hdot]
  rw [readDecimal?, hexponent]
  simp [List.takeWhile_append_of_pos hpoint, List.dropWhile_append_of_pos hpoint, hwhole,
    ungroup?_eq_self hne hf]

/-- A double is written with a digit behind the point. -/
theorem exists_floatText (hx : x.isFinite = true) : ∃ fraction,
    floatText x = signed x.negative ((shortest x).split.1 ++ '.' :: fraction) ∧ fraction ≠ [] ∧
      (fraction = (shortest x).split.2 ∨ (shortest x).split.2 = [] ∧ fraction = ['0']) := by
  have hnan : x.isNaN = false := by
    have hfinite : x.magnitude < Double.infinite := of_decide_eq_true hx
    exact decide_eq_false hfinite.not_gt
  have hsign : ∀ s, signText x ++ s = signed x.negative s := by
    intro s
    rw [signText, signed]
    split_ifs <;> rfl
  rw [floatText, if_neg (by simp [hnan]), if_neg (by simp [hx])]
  split
  · rename_i whole hsplit
    rw [hsplit, List.append_assoc, hsign]
    exact ⟨['0'], rfl, List.cons_ne_nil _ _, .inr ⟨rfl, rfl⟩⟩
  · rename_i whole fraction hne hsplit
    rw [hsplit, List.append_assoc, hsign]
    exact ⟨fraction, rfl, hne, .inl rfl⟩

/-- A zero is written as such. -/
theorem split_shortest_of_zero (hm : x.parts.1 = 0) : (shortest x).split = (['0'], []) := by
  simp only [shortest, hm, if_true]
  rfl

/-- A whole number is read with a zero behind the point, too. -/
theorem ofDecimal_point_zero (hx : x.isFinite = true) (hm : 0 < x.parts.1) {v : Nat}
    (hown : Double.Owns x.parts.1 x.parts.2 v) :
    Double.ofDecimal x.negative (v * 10) (-1) = x := by
  have hlt : v < 2 ^ 1024 := by
    have := hown.lt_two_pow hx
    rw [zpow_ofNat] at this
    exact_mod_cast this
  have hten : v * 10 < 2 ^ (1024 + 4) := by
    rw [pow_add]
    exact Nat.mul_lt_mul_of_lt_of_le hlt (by decide) (by decide)
  have hscale : ((v * 10 : Nat) : ℚ) * 10 ^ (-1 : Int) = v := by
    rw [zpow_neg_one, Nat.cast_mul]
    exact mul_inv_cancel_right₀ (by norm_num) _
  exact Double.ofDecimal_eq_self hx hm (by decide) hten (by rwa [hscale])

/-- The digits around the point that a double is written with are those of a number that is
rounded to it. -/
theorem ofDecimal_shortest (hx : x.isFinite = true) (hm : 0 < x.parts.1) (hne : fraction ≠ [])
    (hfraction : fraction = (shortest x).split.2 ∨ (shortest x).split.2 = [] ∧ fraction = ['0']) :
    Double.ofDecimal x.negative (value ((shortest x).split.1 ++ fraction)) (0 - fraction.length) =
      x := by
  obtain ⟨c, k, hshortest, -, hc, hown⟩ := exists_shortest hx hm
  rw [hshortest] at hfraction ⊢
  have hrat := (Digits.ofScaled c k).value_split
  rw [Digits.toRat_ofScaled] at hrat
  rcases hfraction with rfl | ⟨hnil, rfl⟩
  · have hlt : value ((Digits.ofScaled c k).split.1 ++ (Digits.ofScaled c k).split.2) < 2 ^ 57 := by
      rw [Digits.value_split_of_ne_nil hne]
      exact ((Digits.value_ofScaled_le c k).trans hc).trans_lt (by decide)
    exact Double.ofDecimal_eq_self hx hm (by decide) hlt (by rwa [zero_sub, hrat])
  · have hvalue : value ((Digits.ofScaled c k).split.1 ++ ['0']) =
        value (Digits.ofScaled c k).split.1 * 10 := by
      rw [value, valueFrom_append]
      rfl
    rw [hnil, List.append_nil] at hrat
    rw [← hrat] at hown
    rw [hvalue]
    exact ofDecimal_point_zero hx hm (by simpa using hown)

/-- **A finite double is read back.** -/
theorem isRun_floatText (hx : x.isFinite = true) : IsRun (floatText x) (.float x) := by
  obtain ⟨fraction, htext, hne, hfraction⟩ := exists_floatText hx
  have hdigits : ∀ c ∈ (shortest x).digits, c.isDigit = true := fun _ => isDigit_of_mem_shortest
  have hwhole : ∀ c ∈ (shortest x).split.1, c.isDigit = true := fun c hc =>
    isDigit_of_mem_split hdigits (.inl hc)
  have hfractional : ∀ c ∈ fraction, c.isDigit = true := by
    rcases hfraction with rfl | ⟨-, rfl⟩
    · exact fun c hc => isDigit_of_mem_split hdigits (.inr hc)
    · exact List.all_eq_true.mp rfl
  have hnumber : ∀ c ∈ (shortest x).split.1 ++ '.' :: fraction, isNumberChar c = true := by
    simp only [List.forall_mem_append, List.forall_mem_cons]
    exact ⟨fun c hc => isNumberChar_of_isDigit (hwhole c hc), by decide,
      fun c hc => isNumberChar_of_isDigit (hfractional c hc)⟩
  obtain ⟨hvalue, hself⟩ : Double.ofDecimal x.negative (value ((shortest x).split.1 ++ fraction))
        (0 - fraction.length) = x ∧
      wholeDigits? (shortest x).split.1 = some (shortest x).split.1 := by
    rcases Nat.eq_zero_or_pos x.parts.1 with hzero | hm
    · rw [split_shortest_of_zero hzero] at hfraction ⊢
      obtain rfl : fraction = ['0'] := by simpa [hne] using hfraction
      exact ⟨(Double.eq_zero_of_parts hzero).symm, rfl⟩
    · obtain ⟨c, k, hshortest, hc, -⟩ := exists_shortest hx hm
      obtain ⟨hne', hlead⟩ := (Digits.isNormal_ofScaled hc (k := k)).split_fst
      rw [← hshortest] at hne' hlead
      exact ⟨ofDecimal_shortest hx hm hne hfraction, wholeDigits?_eq_self hne' hwhole hlead⟩
  have hfinite : x ≠ Double.infinity false := by
    rintro rfl
    exact absurd hx (by decide)
  rw [htext]
  refine isRun_signed (by simp) hnumber ?_
  rw [readScalar?_signed hnumber, wholeDigits?_eq_none (by simp), Option.bind_none,
    Option.none_or, readDecimal?_point hself hwhole hne hfractional, hvalue]
  simp [hfinite]

end Metasearch.Toml
