import Metasearch.Proofs.Text.Ascii
import Metasearch.Proofs.Text.Pieces
import Metasearch.Proofs.Text.Utf8

/-!
# Texts in either case

What reads a text without regard to the case of its letters reads the text in small letters in the
same way. Marks and digits are not letters, so a text is cut at the same places in either case. In
UTF-8 an ASCII letter is a byte of its own, and no other byte looks like one: letters are made small
before or after reading.

## Main definitions

* `lowerByte`: the byte of an ASCII letter made small.

## Main results

* `apply_toLower`: what ASCII characters tell of all characters.
* `splitWhere_lower`: a text is cut in either case.
* `encodeChar_toLower`, `decodeStrict?_map_lowerByte`: case goes through UTF-8.
-/

namespace Metasearch.Text

variable {c d : Char} {s t : List Char}

/-! ### Characters -/

/-- What is the same for ASCII characters in either case is so for all characters. -/
theorem apply_toLower {α : Type} [DecidableEq α] {f : Char → α}
    (h : ∀ n < 0x80, f (Char.ofNat n).toLower = f (Char.ofNat n)) (c : Char) :
    f c.toLower = f c := by
  cases hu : c.isUpper with
  | false => rw [toLower_eq_self hu]
  | true =>
    have hall : decide (f c.toLower = f c) = true :=
      forall_ascii (p := fun c => decide (f c.toLower = f c)) (fun n hn => decide_eq_true (h n hn))
        (toNat_lt_of_isUpper hu)
    exact of_decide_eq_true hall

theorem toLower_toLower (c : Char) : c.toLower.toLower = c.toLower :=
  apply_toLower (by decide) c

/-- No letter becomes a mark. -/
theorem toLower_eq_iff (hd : d.isAlpha = false) : c.toLower = d ↔ c = d := by
  cases hu : c.isUpper with
  | false => rw [toLower_eq_self hu]
  | true =>
    have halpha : c.isAlpha = true := Bool.or_eq_true_iff.mpr (Or.inl hu)
    have halpha' : c.toLower.isAlpha = true := (apply_toLower (by decide) c).trans halpha
    constructor
    · rintro rfl
      exact absurd (hd.symm.trans halpha') Bool.false_ne_true
    · rintro rfl
      exact absurd (hd.symm.trans halpha) Bool.false_ne_true

theorem beq_toLower (hd : d.isAlpha = false) (c : Char) : (c.toLower == d) = (c == d) := by
  rw [Bool.eq_iff_iff, beq_iff_eq, beq_iff_eq, toLower_eq_iff hd]

theorem lower_cons (c : Char) (s : List Char) : lower (c :: s) = c.toLower :: lower s :=
  rfl

theorem head?_lower (hd : d.isAlpha = false) : (lower s).head? = some d ↔ s.head? = some d := by
  cases s with
  | nil => rfl
  | cons c r =>
    rw [lower_cons, List.head?_cons, List.head?_cons, Option.some.injEq, Option.some.injEq,
      toLower_eq_iff hd]

theorem mem_lower_iff (hd : d.isAlpha = false) : d ∈ lower s ↔ d ∈ s := by
  rw [lower, List.mem_map]
  constructor
  · rintro ⟨c, hc, h⟩
    exact (toLower_eq_iff hd).mp h ▸ hc
  · exact fun h => ⟨d, h, (toLower_eq_iff hd).mpr rfl⟩

theorem all_isDigit_lower (s : List Char) : (lower s).all Char.isDigit = s.all Char.isDigit := by
  have hdigit : (Char.isDigit ∘ Char.toLower) = Char.isDigit :=
    funext (apply_toLower (by decide))
  rw [lower, List.all_map, hdigit]

/-- Digits are the same in either case. -/
theorem lower_eq_self (h : s.all Char.isDigit = true) : lower s = s := by
  refine (List.map_congr_left fun c hc => ?_).trans (List.map_id s)
  have hdigit := List.all_eq_true.mp h c hc
  have hsmall : (!c.isUpper) = true :=
    imp_of_ascii (q := fun c => !c.isUpper) (by decide) (toNat_lt_of_isDigit hdigit) hdigit
  exact toLower_eq_self (by simpa using hsmall)

/-! ### Cutting -/

theorem splitWhere_lower {p : Char → Bool} (hp : ∀ c : Char, p c.toLower = p c) (s : List Char) :
    splitWhere p (lower s) = (splitWhere p s).map lower := by
  induction s with
  | nil => rfl
  | cons c r ih =>
    rw [lower_cons, splitWhere, splitWhere, hp, ih]
    split
    · rfl
    · cases splitWhere p r <;> rfl

theorem dropTailWhile_lower {p : Char → Bool} (hp : ∀ c : Char, p c.toLower = p c)
    (s : List Char) : dropTailWhile p (lower s) = lower (dropTailWhile p s) := by
  induction s with
  | nil => rfl
  | cons c r ih =>
    rw [lower_cons, dropTailWhile, dropTailWhile, ih, hp]
    cases dropTailWhile p r with
    | nil => cases p c <;> rfl
    | cons d t => rfl

/-! ### Bytes -/

namespace Utf8

variable {b b₂ : UInt8} {rest : List UInt8}

/-- A byte of an ASCII letter made small. -/
def lowerByte (b : UInt8) : UInt8 :=
  if 0x41 ≤ b && b ≤ 0x5A then b + 0x20 else b

/-- What holds of all 256 bytes. -/
theorem forall_byte {p : UInt8 → Bool} (h : ∀ n < 0x100, p (UInt8.ofNat n) = true) (b : UInt8) :
    p b = true := by
  have := h b.toNat b.toNat_lt
  rwa [UInt8.ofNat_toNat] at this

theorem lowerByte_of_le (h : 0x80 ≤ b.toNat) : lowerByte b = b := by
  have hall : (decide (b.toNat < 0x80) || lowerByte b == b) = true :=
    forall_byte (p := fun b => decide (b.toNat < 0x80) || lowerByte b == b) (by decide +kernel) b
  have hb : ¬b.toNat < 0x80 := Nat.not_lt.mpr h
  simpa [hb] using hall

theorem lowerByte_of_lt (h : b.toNat < 0x80) : (lowerByte b).toNat < 0x80 ∧
    Char.ofNat (lowerByte b).toNat = (Char.ofNat b.toNat).toLower := by
  have hall : (!decide (b.toNat < 0x80) || (decide ((lowerByte b).toNat < 0x80) &&
      Char.ofNat (lowerByte b).toNat == (Char.ofNat b.toNat).toLower)) = true :=
    forall_byte (p := fun b => !decide (b.toNat < 0x80) || (decide ((lowerByte b).toNat < 0x80) &&
      Char.ofNat (lowerByte b).toNat == (Char.ofNat b.toNat).toLower)) (by decide +kernel) b
  simpa [h] using hall

/-- All bytes of a character beyond ASCII are. -/
theorem le_of_mem_encodeChar (hc : 0x80 ≤ c.toNat) (hb : b ∈ String.utf8EncodeChar c) :
    0x80 ≤ b.toNat := by
  have hval : c.val.toNat = c.toNat := rfl
  have hle : ∀ n, 0x80 ≤ n → n < 0x100 → 0x80 ≤ (UInt8.ofNat n).toNat := by
    intro n hn hn'
    rwa [toNat_ofNat_of_lt hn']
  rw [String.utf8EncodeChar] at hb
  simp only [hval] at hb
  generalize c.toNat = v at hc hb
  repeat' split at hb
  all_goals simp only [List.mem_cons, List.not_mem_nil, or_false] at hb
  · omega
  · rcases hb with rfl | rfl <;> exact hle _ (by omega) (by omega)
  · rcases hb with rfl | rfl | rfl <;> exact hle _ (by omega) (by omega)
  · rcases hb with rfl | rfl | rfl | rfl <;> exact hle _ (by omega) (by omega)

theorem encodeChar_toLower (c : Char) :
    String.utf8EncodeChar c.toLower = (String.utf8EncodeChar c).map lowerByte := by
  rcases Nat.lt_or_ge c.toNat 0x80 with h | h
  · have hall : (String.utf8EncodeChar c.toLower ==
        (String.utf8EncodeChar c).map lowerByte) = true :=
      forall_ascii (p := fun c => String.utf8EncodeChar c.toLower ==
        (String.utf8EncodeChar c).map lowerByte) (by decide +kernel) h
    exact eq_of_beq hall
  · have hupper : c.isUpper = false := by
      cases hu : c.isUpper with
      | false => rfl
      | true => exact absurd (toNat_lt_of_isUpper hu) (Nat.not_lt.mpr h)
    rw [toLower_eq_self hupper]
    exact ((List.map_congr_left fun b hb =>
      lowerByte_of_le (le_of_mem_encodeChar h hb)).trans (List.map_id _)).symm

theorem toLower_ofNat {n : Nat} (h : 0x80 ≤ n) : (Char.ofNat n).toLower = Char.ofNat n := by
  by_cases hn : n.isValidChar
  · refine toLower_eq_self ?_
    cases hu : (Char.ofNat n).isUpper with
    | false => rfl
    | true =>
      have hlt := toNat_lt_of_isUpper hu
      rw [Char.ofNat, dif_pos hn] at hlt
      exact absurd hlt (Nat.not_lt.mpr h)
  · rw [Char.ofNat, dif_neg hn]
    decide

theorem isContinuation_lowerByte (b : UInt8) :
    isContinuation (lowerByte b) = isContinuation b :=
  eq_of_beq (forall_byte (p := fun b => isContinuation (lowerByte b) == isContinuation b)
    (by decide +kernel) b)

theorem lowerByte_of_isContinuation (h : isContinuation b = true) : lowerByte b = b := by
  rw [isContinuation, Bool.and_eq_true, decide_eq_true_eq] at h
  exact lowerByte_of_le (UInt8.le_iff_toNat_le.mp h.1)

/-- The range of a second byte lies beyond ASCII. -/
theorem secondMin_bounds (b : UInt8) :
    0x80 ≤ (secondMin b).toNat ∧ (secondMax b).toNat ≤ 0xBF := by
  rw [secondMin, secondMax]
  refine ⟨?_, ?_⟩
  · split
    · decide
    · split <;> decide
  · split
    · decide
    · split <;> decide

theorem second_lowerByte (b b₂ : UInt8) :
    (secondMin b ≤ lowerByte b₂ && lowerByte b₂ ≤ secondMax b) =
      (secondMin b ≤ b₂ && b₂ ≤ secondMax b) := by
  rcases Nat.lt_or_ge b₂.toNat 0x80 with h | h
  · have hmin := (secondMin_bounds b).1
    have hlower := (lowerByte_of_lt h).1
    have hnot : ∀ x : UInt8, x.toNat < 0x80 → decide (secondMin b ≤ x) = false := by
      intro x hx
      rw [decide_eq_false_iff_not, UInt8.le_iff_toNat_le]
      omega
    rw [hnot b₂ h, hnot _ hlower, Bool.false_and, Bool.false_and]
  · rw [lowerByte_of_le h]

theorem second_bounds (h : (secondMin b ≤ b₂ && b₂ ≤ secondMax b) = true) :
    0x80 ≤ b₂.toNat ∧ b₂.toNat ≤ 0xBF ∧ (b.toNat = 0xE0 → 0xA0 ≤ b₂.toNat) ∧
      (b.toNat = 0xF0 → 0x90 ≤ b₂.toNat) := by
  rw [Bool.and_eq_true, decide_eq_true_eq, decide_eq_true_eq, UInt8.le_iff_toNat_le,
    UInt8.le_iff_toNat_le] at h
  obtain ⟨hmin, hmax⟩ := secondMin_bounds b
  refine ⟨by omega, by omega, ?_, ?_⟩
  · intro hb
    obtain rfl : b = 0xE0 := UInt8.toNat_inj.mp hb
    exact h.1
  · intro hb
    obtain rfl : b = 0xF0 := UInt8.toNat_inj.mp hb
    exact h.1

/-! Two bytes and more spell a code point beyond ASCII, since the first byte and the range of the
second leave no longer spelling of a smaller one. -/

theorem le_point_two (hb : 0xC2 ≤ b.toNat) (hlt : b.toNat < 0xE0) (b₂ : UInt8) :
    0x80 ≤ b.toNat % 32 * 64 + payload b₂ := by
  omega

theorem le_point_three (hb : 0xE0 ≤ b.toNat) (hlt : b.toNat < 0xF0)
    (hfits : (secondMin b ≤ b₂ && b₂ ≤ secondMax b) = true) (b₃ : UInt8) :
    0x80 ≤ (b.toNat % 16 * 64 + payload b₂) * 64 + payload b₃ := by
  obtain ⟨-, hle, hshort, -⟩ := second_bounds hfits
  have hpayload : payload b₂ = b₂.toNat % 64 := rfl
  omega

theorem le_point_four (hb : 0xF0 ≤ b.toNat) (hlt : b.toNat ≤ 0xF4)
    (hfits : (secondMin b ≤ b₂ && b₂ ≤ secondMax b) = true) (b₃ b₄ : UInt8) :
    0x80 ≤ ((b.toNat % 8 * 64 + payload b₂) * 64 + payload b₃) * 64 + payload b₄ := by
  obtain ⟨-, hle, -, hshort⟩ := second_bounds hfits
  have hpayload : payload b₂ = b₂.toNat % 64 := rfl
  omega

/-- A character is read in either case. -/
theorem readChar_lowerByte (b : UInt8) (rest : List UInt8) :
    readChar (lowerByte b) (rest.map lowerByte) =
      ((readChar b rest).1.map Char.toLower, (readChar b rest).2.map lowerByte) := by
  rcases Nat.lt_or_ge b.toNat 0x80 with hone | hone
  · obtain ⟨hlt, hchar⟩ := lowerByte_of_lt hone
    rw [readChar_one hlt, readChar_one hone, hchar]
    rfl
  rw [lowerByte_of_le hone, readChar.eq_def, readChar.eq_def b rest]
  have hb : ¬b < 0x80 := fun h => Nat.not_lt.mpr hone (UInt8.lt_iff_toNat_lt.mp h)
  rw [if_neg hb, if_neg hb]
  by_cases hbad : (decide (b < 0xC2) || decide (0xF4 < b)) = true
  · rw [if_pos hbad, if_pos hbad]
    rfl
  rw [if_neg hbad, if_neg hbad]
  have hrange : 0xC2 ≤ b.toNat ∧ b.toNat ≤ 0xF4 := by
    simp only [Bool.or_eq_true, decide_eq_true_eq, UInt8.lt_iff_toNat_lt] at hbad
    change ¬(b.toNat < 0xC2 ∨ 0xF4 < b.toNat) at hbad
    omega
  cases rest with
  | nil => rfl
  | cons b₂ rest =>
    simp only [List.map_cons, second_lowerByte]
    cases hfits : (secondMin b ≤ b₂ && b₂ ≤ secondMax b) with
    | false => rfl
    | true =>
      simp only [lowerByte_of_le (second_bounds hfits).1, Bool.not_true, Bool.false_eq_true,
        if_false]
      by_cases htwo : b < 0xE0
      · rw [if_pos htwo, if_pos htwo, Option.map_some,
          toLower_ofNat (le_point_two hrange.1 (UInt8.lt_iff_toNat_lt.mp htwo) b₂)]
      have hge : 0xE0 ≤ b.toNat := Nat.not_lt.mp fun h => htwo (UInt8.lt_iff_toNat_lt.mpr h)
      rw [if_neg htwo, if_neg htwo]
      cases rest with
      | nil => rfl
      | cons b₃ rest =>
        simp only [List.map_cons, isContinuation_lowerByte]
        cases h₃ : isContinuation b₃ with
        | false => rfl
        | true =>
          simp only [lowerByte_of_isContinuation h₃, Bool.not_true, Bool.false_eq_true, if_false]
          by_cases hthree : b < 0xF0
          · rw [if_pos hthree, if_pos hthree, Option.map_some,
              toLower_ofNat (le_point_three hge (UInt8.lt_iff_toNat_lt.mp hthree) hfits b₃)]
          have hge : 0xF0 ≤ b.toNat := Nat.not_lt.mp fun h => hthree (UInt8.lt_iff_toNat_lt.mpr h)
          rw [if_neg hthree, if_neg hthree]
          cases rest with
          | nil => rfl
          | cons b₄ rest =>
            simp only [List.map_cons, isContinuation_lowerByte]
            cases h₄ : isContinuation b₄ with
            | false => rfl
            | true =>
              simp only [lowerByte_of_isContinuation h₄, Bool.not_true, Bool.false_eq_true,
                if_false]
              rw [Option.map_some, toLower_ofNat (le_point_four hge hrange.2 hfits b₃ b₄)]

/-- **Bytes in either case are a text in either case.** -/
theorem decodeStrict?_map_lowerByte (bytes : List UInt8) :
    decodeStrict? (bytes.map lowerByte) = (decodeStrict? bytes).map lower := by
  induction bytes using decodeStrict?.induct with
  | case1 => simp [decodeStrict?, lower]
  | case2 b rest hmalformed =>
    rw [List.map_cons, decodeStrict?, decodeStrict?, readChar_lowerByte, hmalformed]
    rfl
  | case3 b rest c hc ih =>
    rw [List.map_cons, decodeStrict?, decodeStrict?, readChar_lowerByte, hc]
    simp only [Option.map_some]
    rw [ih, Option.map_map, Option.map_map]
    rfl

end Utf8
end Metasearch.Text
