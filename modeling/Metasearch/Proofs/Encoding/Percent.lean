import Metasearch.Encoding.Percent
import Metasearch.Proofs.Text.Ascii
import Metasearch.Proofs.Text.Utf8

/-!
# What percent encoding keeps

Encoding is used in two ways. Where the percent sign itself is escaped, decoding gives the text
back. Where it is kept, a text that is encoded already stays as it is, and encoding any text does
not change what it decodes to: the bytes that it denotes are the same before and after.

## Main results

* `encode_eq_self`: what is kept stays.
* `escapes_induction`: how a text is decoded.
* `forall_mem_encode`: what is written is kept when it is written again.
* `decode_encode_of_escaped`: decoding gives the text back, if `%` is escaped.
* `decode_encode_of_kept`: encoding keeps the bytes, if `%` is kept.
-/

namespace Metasearch.Encoding.Percent

open Metasearch.Text Metasearch.Number

variable {keep : Char → Bool} {a b c : Char} {s r : List Char}

/-! ### Hexadecimal digits -/

theorem isSome_hexValue?_iff : (hexValue? c).isSome ↔
    48 ≤ c.toNat ∧ c.toNat ≤ 57 ∨ 97 ≤ c.toNat ∧ c.toNat ≤ 102 ∨ 65 ≤ c.toNat ∧ c.toNat ≤ 70 := by
  rw [hexValue?, digitIn?]
  split
  · rename_i h
    rw [if_pos (by omega)]
    simp only [Option.isSome_some, true_iff]
    exact Or.inl h
  · split
    · rename_i h
      rw [if_pos (by omega)]
      simp only [Option.isSome_some, true_iff]
      exact Or.inr (Or.inl h)
    · split
      · rename_i h
        rw [if_pos (by omega)]
        simp only [Option.isSome_some, true_iff]
        exact Or.inr (Or.inr h)
      · rw [if_neg (Nat.lt_irrefl 16)]
        simp only [Option.isSome_none, Bool.false_eq_true, false_iff]
        omega

theorem hexValue?_percent : hexValue? '%' = none := by decide

theorem toNat_lt_of_hexValue? (h : (hexValue? c).isSome) : c.toNat < 0x80 := by
  have := isSome_hexValue?_iff.mp h
  omega

/-- What holds of the ASCII characters that are digits holds of all digits. -/
theorem of_isSome_hexValue? {p : Char → Bool}
    (h : ∀ n < 0x80, (!(hexValue? (Char.ofNat n)).isSome || p (Char.ofNat n)) = true)
    (hx : (hexValue? c).isSome) : p c = true :=
  imp_of_ascii (p := fun c => (hexValue? c).isSome) h (toNat_lt_of_hexValue? hx) hx

theorem isSome_hexValue?_upperHexDigit {n : Nat} (h : n < 16) :
    (hexValue? (upperHexDigit n)).isSome := by
  rw [hexValue?_upperHexDigit h]
  rfl

/-! ### What is written -/

theorem encode_cons (keep : Char → Bool) (c : Char) (r : List Char) :
    encode keep (c :: r) = encodeChar keep c ++ encode keep r :=
  List.flatMap_cons

theorem encodeChar_of_keep (h : keep c = true) : encodeChar keep c = [c] := by
  rw [encodeChar, if_pos h]

theorem encodeChar_of_not_keep (h : keep c = false) :
    encodeChar keep c = (String.utf8EncodeChar c).flatMap encodeByte := by
  rw [encodeChar, h]
  rfl

/-- A text of characters that are kept stays as it is. -/
theorem encode_eq_self (h : ∀ c ∈ s, keep c = true) : encode keep s = s := by
  induction s with
  | nil => rfl
  | cons c r ih =>
    rw [encode_cons, encodeChar_of_keep (h c List.mem_cons_self),
      ih fun d hd => h d (List.mem_cons_of_mem c hd)]
    rfl

theorem mem_encodeByte {x : UInt8} (h : c ∈ encodeByte x) :
    c = '%' ∨ (hexValue? c).isSome := by
  have hx := x.toNat_lt
  simp only [encodeByte, List.mem_cons, List.not_mem_nil, or_false] at h
  rcases h with rfl | rfl | rfl
  · exact Or.inl rfl
  · exact Or.inr (isSome_hexValue?_upperHexDigit (by omega))
  · exact Or.inr (isSome_hexValue?_upperHexDigit (by omega))

theorem mem_encode (h : c ∈ encode keep s) :
    (c ∈ s ∧ keep c = true) ∨ c = '%' ∨ (hexValue? c).isSome := by
  obtain ⟨d, hd, hc⟩ := List.mem_flatMap.mp h
  cases hk : keep d with
  | true =>
    rw [encodeChar_of_keep hk, List.mem_singleton] at hc
    exact Or.inl ⟨hc ▸ hd, hc ▸ hk⟩
  | false =>
    rw [encodeChar_of_not_keep hk] at hc
    obtain ⟨x, -, hx⟩ := List.mem_flatMap.mp hc
    exact Or.inr (mem_encodeByte hx)

/-- A set of characters that has the percent sign and the digits keeps all that is written with
it. -/
theorem forall_mem_encode (hp : keep '%' = true)
    (hx : ∀ c, (hexValue? c).isSome → keep c = true) (s : List Char) :
    ∀ c ∈ encode keep s, keep c = true := by
  intro c hc
  rcases mem_encode hc with ⟨-, h⟩ | rfl | h
  · exact h
  · exact hp
  · exact hx c h

/-! ### What is read -/

theorem decode_cons_of_ne (h : c ≠ '%') (r : List Char) :
    decode (c :: r) = String.utf8EncodeChar c ++ decode r := by
  rw [decode.eq_def]
  split
  · rename_i heq
    injection heq with hc
    exact absurd hc h
  · rename_i heq
    injection heq with hc hr
    rw [hc, hr]
  · rename_i heq
    injection heq

/-- Two hexadecimal digits at the front of a text. -/
def StartsWithDigits (s : List Char) : Prop :=
  ∃ a b r, s = a :: b :: r ∧ (hexValue? a).isSome ∧ (hexValue? b).isSome

theorem decode_percent_of_not (h : ¬StartsWithDigits s) : decode ('%' :: s) = 0x25 :: decode s := by
  rw [decode.eq_def]
  split
  · rename_i a b r heq
    injection heq with _ hs
    split
    · rename_i ha hb
      exact absurd ⟨a, b, r, hs, by rw [ha]; rfl, by rw [hb]; rfl⟩ h
    · rw [hs]
  · rename_i heq
    injection heq with hc hs
    rw [← hc, hs]
    rfl
  · rename_i heq
    injection heq

theorem decode_percent_of_hex {x y : Nat} (ha : hexValue? a = some x) (hb : hexValue? b = some y)
    (r : List Char) : decode ('%' :: a :: b :: r) = UInt8.ofNat (x * 16 + y) :: decode r := by
  rw [decode, ha, hb]

/-- A percent sign with two digits after it is read as a byte, and any character else as its own
bytes. -/
theorem decode_cons_cases (c : Char) (r : List Char) :
    (∃ a b t x y, c = '%' ∧ r = a :: b :: t ∧ hexValue? a = some x ∧ hexValue? b = some y) ∨
      decode (c :: r) = String.utf8EncodeChar c ++ decode r := by
  by_cases hc : c = '%'
  · subst hc
    by_cases hr : StartsWithDigits r
    · obtain ⟨a, b, t, rfl, ha, hb⟩ := hr
      obtain ⟨x, hx⟩ := Option.isSome_iff_exists.mp ha
      obtain ⟨y, hy⟩ := Option.isSome_iff_exists.mp hb
      exact Or.inl ⟨a, b, t, x, y, rfl, rfl, hx, hy⟩
    · exact Or.inr (decode_percent_of_not hr)
  · exact Or.inr (decode_cons_of_ne hc r)

/-- **A text is read escape by escape.** A percent sign that starts none stands for itself. -/
@[elab_as_elim]
theorem escapes_induction {motive : List Char → Prop} (nil : motive [])
    (cons : ∀ c r, c ≠ '%' → motive r → motive (c :: r))
    (percent : ∀ r, ¬StartsWithDigits r → motive r → motive ('%' :: r))
    (escape : ∀ a b r {x y : Nat}, hexValue? a = some x → hexValue? b = some y → motive r →
      motive ('%' :: a :: b :: r))
    (s : List Char) : motive s := by
  fun_induction decode s with
  | case1 a b r x y hb ha ih => exact escape a b r ha hb ih
  | case2 a b r hnot ih =>
    refine percent _ ?_ ih
    rintro ⟨a', b', r', heq, ha, hb⟩
    obtain ⟨x, hx⟩ := Option.isSome_iff_exists.mp ha
    obtain ⟨y, hy⟩ := Option.isSome_iff_exists.mp hb
    injection heq with h₁ heq
    injection heq with h₂ _
    exact hnot x y (h₁ ▸ hx) (h₂ ▸ hy)
  | case3 c r hlong ih =>
    by_cases hc : c = '%'
    · subst hc
      refine percent r ?_ ih
      rintro ⟨a, b, t, rfl, -, -⟩
      exact hlong a b t rfl rfl
    · exact cons c r hc ih
  | case4 => exact nil

theorem decode_encodeByte (x : UInt8) (r : List Char) :
    decode (encodeByte x ++ r) = x :: decode r := by
  have hx := x.toNat_lt
  have hval : x.toNat / 16 * 16 + x.toNat % 16 = x.toNat := by omega
  rw [encodeByte, List.cons_append, List.cons_append, List.cons_append, List.nil_append,
    decode_percent_of_hex (hexValue?_upperHexDigit (by omega))
      (hexValue?_upperHexDigit (by omega)), hval, UInt8.ofNat_toNat]

theorem decode_encodeBytes (bytes : List UInt8) (r : List Char) :
    decode (bytes.flatMap encodeByte ++ r) = bytes ++ decode r := by
  induction bytes with
  | nil => rfl
  | cons x rest ih => rw [List.flatMap_cons, List.append_assoc, decode_encodeByte, ih]; rfl

/-- One character is read as its bytes, unless it is a percent sign that is kept. -/
theorem decode_encodeChar (h : c = '%' → keep c = false) (r : List Char) :
    decode (encodeChar keep c ++ r) = String.utf8EncodeChar c ++ decode r := by
  cases hk : keep c with
  | false => rw [encodeChar_of_not_keep hk, decode_encodeBytes]
  | true =>
    rw [encodeChar_of_keep hk]
    refine decode_cons_of_ne (fun hc => ?_) r
    rw [h hc] at hk
    exact absurd hk Bool.false_ne_true

/-- **Decoding gives the text back**, where the percent sign is escaped. -/
theorem decode_encode_of_escaped (h : keep '%' = false) (s : List Char) :
    decode (encode keep s) = Utf8.encode s := by
  induction s with
  | nil => rfl
  | cons c r ih =>
    rw [encode_cons, decode_encodeChar (fun hc => hc ▸ h), ih]
    rfl

theorem decode_encodeTerm (s : List Char) : decode (encodeTerm s) = Utf8.encode s :=
  decode_encode_of_escaped (by decide) s

/-- **A term is read back.** -/
theorem decodeTerm?_encodeTerm (s : List Char) : decodeTerm? (encodeTerm s) = some s := by
  rw [decodeTerm?, decode_encodeTerm, Utf8.decodeStrict?_encode]

/-- A text without a percent sign denotes itself. -/
theorem decode_of_notMem (h : '%' ∉ s) : decode s = Utf8.encode s := by
  induction s with
  | nil => rfl
  | cons c r ih =>
    rw [decode_cons_of_ne fun hc => h (hc ▸ List.mem_cons_self),
      ih fun hr => h (List.mem_cons_of_mem c hr)]
    rfl

theorem decodeTerm?_of_notMem (h : '%' ∉ s) : decodeTerm? s = some s := by
  rw [decodeTerm?, decode_of_notMem h, Utf8.decodeStrict?_encode]

/-! ### A percent sign that is kept

Then a percent sign of the text may come to stand before characters that encoding wrote. None of
them is a digit, since what encoding writes for a character starts with a percent sign. So a
percent sign has two digits after it in the encoded text just when it had them before. -/

theorem head_encode {x : Char} {t : List Char} (h : encode keep (c :: s) = x :: t)
    (hx : (hexValue? x).isSome) : x = c ∧ t = encode keep s := by
  rw [encode_cons] at h
  cases hk : keep c with
  | true =>
    rw [encodeChar_of_keep hk, List.singleton_append] at h
    injection h with hc ht
    exact ⟨hc.symm, ht.symm⟩
  | false =>
    obtain ⟨y, more, hy, -⟩ := Utf8.readChar_encodeChar c []
    rw [encodeChar_of_not_keep hk, hy, List.flatMap_cons, encodeByte] at h
    injection h with hp
    rw [← hp, hexValue?_percent] at hx
    exact absurd hx Bool.false_ne_true

theorem not_startsWithDigits_encode (h : ¬StartsWithDigits s) :
    ¬StartsWithDigits (encode keep s) := by
  rintro ⟨x, y, t, heq, hx, hy⟩
  cases s with
  | nil => exact absurd heq (List.cons_ne_nil x (y :: t)).symm
  | cons a s =>
    obtain ⟨rfl, hs⟩ := head_encode heq hx
    cases s with
    | nil => exact absurd hs (List.cons_ne_nil y t)
    | cons b s =>
      obtain ⟨rfl, -⟩ := head_encode hs.symm hy
      exact h ⟨x, y, s, rfl, hx, hy⟩

/-- **Encoding keeps the bytes**, where the percent sign and the digits are kept. -/
theorem decode_encode_of_kept (hp : keep '%' = true)
    (hx : ∀ c, (hexValue? c).isSome → keep c = true) (s : List Char) :
    decode (encode keep s) = decode s := by
  induction s using escapes_induction with
  | nil => rfl
  | cons c r hc ih =>
    rw [encode_cons, decode_encodeChar (absurd · hc), ih, decode_cons_of_ne hc]
  | percent r hr ih =>
    rw [encode_cons, encodeChar_of_keep hp, List.singleton_append,
      decode_percent_of_not (not_startsWithDigits_encode hr), ih, decode_percent_of_not hr]
  | escape a b r ha hb ih =>
    have hkeep : keep a = true ∧ keep b = true :=
      ⟨hx a (by rw [ha]; rfl), hx b (by rw [hb]; rfl)⟩
    rw [encode_cons, encode_cons, encode_cons, encodeChar_of_keep hp, encodeChar_of_keep hkeep.1,
      encodeChar_of_keep hkeep.2, decode_percent_of_hex ha hb, ← ih]
    exact decode_percent_of_hex ha hb (encode keep r)

end Metasearch.Encoding.Percent
