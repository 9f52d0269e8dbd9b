import Mathlib.Data.List.Basic
import Metasearch.Text.Utf8

/-!
# Reading back what was written in UTF-8

`readChar` sorts bytes by comparing them, so its four cases are stated on the numbers of the bytes.
The bytes of a character fall into the case of its length, and the number put together from their
payloads is that of the character: this is arithmetic, case by case.

## Main results

* `readChar_encodeChar`: a character is read back, and nothing after it is touched.
* `decodeStrict?_encode`, `decodeLenient_encode`: so is a text.
-/

namespace Metasearch.Text.Utf8

variable {b b₂ b₃ b₄ : UInt8} {rest : List UInt8}

/-! ### One character by the number of its bytes -/

theorem readChar_one (h : b.toNat < 0x80) :
    readChar b rest = (some (Char.ofNat b.toNat), rest) := by
  rw [readChar.eq_def, if_pos (UInt8.lt_iff_toNat_lt.mpr h)]

theorem not_malformed (h : 0xC2 ≤ b.toNat) (h' : b.toNat ≤ 0xF4) :
    ¬b < 0x80 ∧ ¬((decide (b < 0xC2) || decide (0xF4 < b)) = true) := by
  simp only [UInt8.lt_iff_toNat_lt, Bool.or_eq_true, decide_eq_true_eq]
  change ¬b.toNat < 128 ∧ ¬(b.toNat < 194 ∨ 244 < b.toNat)
  omega

/-- The second byte is in range when it is a continuation and none of the four narrower ranges
shuts it out. -/
theorem second_fits (h : 0x80 ≤ b₂.toNat) (h' : b₂.toNat ≤ 0xBF)
    (he0 : b.toNat = 0xE0 → 0xA0 ≤ b₂.toNat) (hed : b.toNat = 0xED → b₂.toNat ≤ 0x9F)
    (hf0 : b.toNat = 0xF0 → 0x90 ≤ b₂.toNat) (hf4 : b.toNat = 0xF4 → b₂.toNat ≤ 0x8F) :
    (secondMin b ≤ b₂ && b₂ ≤ secondMax b) = true := by
  have heq : ∀ n : UInt8, b = n ↔ b.toNat = n.toNat := fun n => UInt8.toNat_inj.symm
  rw [secondMin, secondMax, Bool.and_eq_true, decide_eq_true_eq, decide_eq_true_eq]
  refine ⟨?_, ?_⟩
  · split
    · rename_i hb
      exact UInt8.le_iff_toNat_le.mpr (he0 ((heq _).mp hb))
    · split
      · rename_i hb
        exact UInt8.le_iff_toNat_le.mpr (hf0 ((heq _).mp hb))
      · exact UInt8.le_iff_toNat_le.mpr h
  · split
    · rename_i hb
      exact UInt8.le_iff_toNat_le.mpr (hed ((heq _).mp hb))
    · split
      · rename_i hb
        exact UInt8.le_iff_toNat_le.mpr (hf4 ((heq _).mp hb))
      · exact UInt8.le_iff_toNat_le.mpr h'

theorem isContinuation_of_toNat (h : 0x80 ≤ b.toNat) (h' : b.toNat ≤ 0xBF) :
    isContinuation b = true := by
  rw [isContinuation, Bool.and_eq_true, decide_eq_true_eq, decide_eq_true_eq]
  exact ⟨UInt8.le_iff_toNat_le.mpr h, UInt8.le_iff_toNat_le.mpr h'⟩

theorem readChar_two (h : 0xC2 ≤ b.toNat) (h' : b.toNat < 0xE0) (h₂ : 0x80 ≤ b₂.toNat)
    (h₂' : b₂.toNat ≤ 0xBF) :
    readChar b (b₂ :: rest) = (some (Char.ofNat (b.toNat % 32 * 64 + b₂.toNat % 64)), rest) := by
  obtain ⟨hone, hbad⟩ := not_malformed h (by omega)
  have hfits : (secondMin b ≤ b₂ && b₂ ≤ secondMax b) = true := by
    refine second_fits h₂ h₂' ?_ ?_ ?_ ?_ <;> intro hb <;> omega
  rw [readChar.eq_def, if_neg hone, if_neg hbad]
  simp only [hfits, Bool.not_true, Bool.false_eq_true, if_false]
  rw [if_pos (UInt8.lt_iff_toNat_lt.mpr h')]
  rfl

theorem readChar_three (h : 0xE0 ≤ b.toNat) (h' : b.toNat < 0xF0) (h₂ : 0x80 ≤ b₂.toNat)
    (h₂' : b₂.toNat ≤ 0xBF) (he0 : b.toNat = 0xE0 → 0xA0 ≤ b₂.toNat)
    (hed : b.toNat = 0xED → b₂.toNat ≤ 0x9F) (h₃ : 0x80 ≤ b₃.toNat) (h₃' : b₃.toNat ≤ 0xBF) :
    readChar b (b₂ :: b₃ :: rest) =
      (some (Char.ofNat ((b.toNat % 16 * 64 + b₂.toNat % 64) * 64 + b₃.toNat % 64)), rest) := by
  obtain ⟨hone, hbad⟩ := not_malformed (b := b) (by omega) (by omega)
  have hfits : (secondMin b ≤ b₂ && b₂ ≤ secondMax b) = true := by
    refine second_fits h₂ h₂' he0 hed ?_ ?_ <;> intro hb <;> omega
  have htwo : ¬b < 0xE0 := fun hb => Nat.not_lt.mpr h (UInt8.lt_iff_toNat_lt.mp hb)
  rw [readChar.eq_def, if_neg hone, if_neg hbad]
  simp only [hfits, isContinuation_of_toNat h₃ h₃', Bool.not_true, Bool.false_eq_true, if_false]
  rw [if_neg htwo, if_pos (UInt8.lt_iff_toNat_lt.mpr h')]
  rfl

theorem readChar_four (h : 0xF0 ≤ b.toNat) (h' : b.toNat ≤ 0xF4) (h₂ : 0x80 ≤ b₂.toNat)
    (h₂' : b₂.toNat ≤ 0xBF) (hf0 : b.toNat = 0xF0 → 0x90 ≤ b₂.toNat)
    (hf4 : b.toNat = 0xF4 → b₂.toNat ≤ 0x8F) (h₃ : 0x80 ≤ b₃.toNat) (h₃' : b₃.toNat ≤ 0xBF)
    (h₄ : 0x80 ≤ b₄.toNat) (h₄' : b₄.toNat ≤ 0xBF) :
    readChar b (b₂ :: b₃ :: b₄ :: rest) =
      (some (Char.ofNat (((b.toNat % 8 * 64 + b₂.toNat % 64) * 64 + b₃.toNat % 64) * 64 +
        b₄.toNat % 64)), rest) := by
  obtain ⟨hone, hbad⟩ := not_malformed (b := b) (by omega) h'
  have hfits : (secondMin b ≤ b₂ && b₂ ≤ secondMax b) = true := by
    refine second_fits h₂ h₂' ?_ ?_ hf0 hf4 <;> intro hb <;> omega
  have htwo : ¬b < 0xE0 := fun hb => by
    have : b.toNat < 0xE0 := UInt8.lt_iff_toNat_lt.mp hb
    omega
  have hthree : ¬b < 0xF0 := fun hb => Nat.not_lt.mpr h (UInt8.lt_iff_toNat_lt.mp hb)
  rw [readChar.eq_def, if_neg hone, if_neg hbad]
  simp only [hfits, isContinuation_of_toNat h₃ h₃', isContinuation_of_toNat h₄ h₄', Bool.not_true,
    Bool.false_eq_true, if_false]
  rw [if_neg htwo, if_neg hthree]
  rfl

/-! ### Characters and texts -/

theorem toNat_ofNat_of_lt {n : Nat} (h : n < 256) : (UInt8.ofNat n).toNat = n := by
  rw [UInt8.toNat_ofNat', Nat.mod_eq_of_lt h]

/-- **A character is read back.** -/
theorem readChar_encodeChar (c : Char) (rest : List UInt8) :
    ∃ b more, String.utf8EncodeChar c = b :: more ∧ readChar b (more ++ rest) = (some c, rest) := by
  have hscalar : c.toNat < 0xD800 ∨ 0xDFFF < c.toNat ∧ c.toNat < 0x110000 := c.valid
  have hback : Char.ofNat c.toNat = c := Char.ofNat_toNat c
  have hval : c.val.toNat = c.toNat := rfl
  generalize hv : c.toNat = v at *
  rw [String.utf8EncodeChar]
  simp only [hval]
  by_cases h1 : v ≤ 0x7F
  · rw [if_pos h1]
    refine ⟨_, _, rfl, ?_⟩
    rw [List.nil_append, readChar_one] <;> rw [toNat_ofNat_of_lt (by omega)]
    · rw [hback]
    · omega
  by_cases h2 : v ≤ 0x7FF
  · rw [if_neg h1, if_pos h2]
    refine ⟨_, _, rfl, ?_⟩
    rw [List.cons_append, List.nil_append, readChar_two]
    all_goals simp only [toNat_ofNat_of_lt (show v / 64 % 32 + 192 < 256 by omega),
      toNat_ofNat_of_lt (show v % 64 + 128 < 256 by omega)]
    · rw [show (v / 64 % 32 + 192) % 32 * 64 + (v % 64 + 128) % 64 = v by omega, hback]
    all_goals omega
  by_cases h3 : v ≤ 0xFFFF
  · rw [if_neg h1, if_neg h2, if_pos h3]
    refine ⟨_, _, rfl, ?_⟩
    rw [List.cons_append, List.cons_append, List.nil_append, readChar_three]
    all_goals simp only [toNat_ofNat_of_lt (show v / 4096 % 16 + 224 < 256 by omega),
      toNat_ofNat_of_lt (show v / 64 % 64 + 128 < 256 by omega),
      toNat_ofNat_of_lt (show v % 64 + 128 < 256 by omega)]
    · rw [show ((v / 4096 % 16 + 224) % 16 * 64 + (v / 64 % 64 + 128) % 64) * 64 +
        (v % 64 + 128) % 64 = v by omega, hback]
    all_goals omega
  · rw [if_neg h1, if_neg h2, if_neg h3]
    refine ⟨_, _, rfl, ?_⟩
    rw [List.cons_append, List.cons_append, List.cons_append, List.nil_append, readChar_four]
    all_goals simp only [toNat_ofNat_of_lt (show v / 262144 % 8 + 240 < 256 by omega),
      toNat_ofNat_of_lt (show v / 4096 % 64 + 128 < 256 by omega),
      toNat_ofNat_of_lt (show v / 64 % 64 + 128 < 256 by omega),
      toNat_ofNat_of_lt (show v % 64 + 128 < 256 by omega)]
    · rw [show (((v / 262144 % 8 + 240) % 8 * 64 + (v / 4096 % 64 + 128) % 64) * 64 +
        (v / 64 % 64 + 128) % 64) * 64 + (v % 64 + 128) % 64 = v by omega, hback]
    all_goals omega

/-- A byte below 128 at the front of a text is that of the first character. -/
theorem eq_of_encodeChar_append {c : Char} {bytes : List UInt8}
    (h : String.utf8EncodeChar c ++ rest = b :: bytes) (hb : b.toNat < 0x80) :
    c = Char.ofNat b.toNat ∧ rest = bytes := by
  obtain ⟨b', more, hc, hread⟩ := readChar_encodeChar c rest
  rw [hc] at h
  obtain ⟨rfl, hmore⟩ := List.cons.inj h
  rw [readChar_one hb] at hread
  obtain ⟨hchar, hrest⟩ := Prod.mk.inj hread
  exact ⟨(Option.some.inj hchar).symm, hrest.symm.trans hmore⟩

/-- The first character of a text is read back, and the bytes of the others are left. -/
theorem exists_encode_cons (c : Char) (s : List Char) :
    ∃ b rest, encode (c :: s) = b :: rest ∧ readChar b rest = (some c, encode s) := by
  obtain ⟨b, more, hc, hread⟩ := readChar_encodeChar c (encode s)
  refine ⟨b, more ++ encode s, ?_, hread⟩
  rw [encode, List.flatMap_cons, hc]
  rfl

/-- **A text is read back.** -/
theorem decodeStrict?_encode (s : List Char) : decodeStrict? (encode s) = some s := by
  induction s with
  | nil => rw [encode, List.flatMap_nil, decodeStrict?]
  | cons c r ih =>
    obtain ⟨b, rest, hcons, hread⟩ := exists_encode_cons c r
    rw [hcons, decodeStrict?, hread]
    simp only [ih, Option.map_some]

theorem encode_inj {s t : List Char} : encode s = encode t ↔ s = t := by
  refine ⟨fun h => ?_, congrArg encode⟩
  have hs := congrArg decodeStrict? h
  rw [decodeStrict?_encode, decodeStrict?_encode] at hs
  exact Option.some.inj hs

theorem decodeLenient_encode (s : List Char) : decodeLenient (encode s) = s := by
  induction s with
  | nil => rw [encode, List.flatMap_nil, decodeLenient]
  | cons c r ih =>
    obtain ⟨b, rest, hcons, hread⟩ := exists_encode_cons c r
    rw [hcons, decodeLenient, hread, ih]
    rfl

end Metasearch.Text.Utf8
