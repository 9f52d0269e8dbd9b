import Metasearch.Proofs.Encoding.Percent
import Metasearch.Proofs.Text.Case
import Metasearch.Url.Host

/-!
# Hosts in either case

A host is read in the same way however its letters are written. An address in brackets is cut at
marks, and hexadecimal digits count in either case. A name is decoded before it is mapped. An escape
stands for one byte whatever the case of its digits, and the other letters are bytes that differ in
case, as do the letters read from them. After that, mapping makes all letters small.

## Main results

* `readIpv6?_lower`: addresses.
* `map_lowerByte_decode`, `toAscii?_decodeTerm?_lower`: names.
* `Host.parse_lower`.
-/

namespace Metasearch.Url

open Metasearch.Text Metasearch.Number Metasearch.Encoding

variable {c : Char} {s : List Char}

/-! ### Addresses -/

theorem hexValue?_toLower (c : Char) : hexValue? c.toLower = hexValue? c :=
  apply_toLower (by decide) c

theorem splitGap_cons (h : ¬(c = ':' ∧ s.head? = some ':')) :
    splitGap (c :: s) = (splitGap s).map fun p => (c :: p.1, p.2) := by
  rw [splitGap]
  rintro r rfl rfl
  exact h ⟨rfl, rfl⟩

theorem splitGap_lower (s : List Char) :
    splitGap (lower s) = (splitGap s).map fun p => (lower p.1, lower p.2) := by
  induction s with
  | nil => rfl
  | cons c r ih =>
    have hcolon : (':' : Char).isAlpha = false := by decide
    by_cases hgap : c = ':' ∧ r.head? = some ':'
    · obtain ⟨rfl, hr⟩ := hgap
      obtain ⟨t, rfl⟩ := List.head?_eq_some_iff.mp hr
      rfl
    · have hgap' : ¬(c.toLower = ':' ∧ (lower r).head? = some ':') := by
        rwa [toLower_eq_iff hcolon, head?_lower hcolon]
      rw [lower_cons, splitGap_cons hgap', splitGap_cons hgap, ih, Option.map_map, Option.map_map]
      rfl

theorem readBase?_lower (base : Nat) (s : List Char) :
    readBase? base (lower s) = readBase? base s := by
  rw [readBase?, lower, List.foldl_map]
  simp only [hexValue?_toLower]
  rfl

theorem readPiece?_lower (s : List Char) : readPiece? (lower s) = readPiece? s := by
  rw [readPiece?, readPiece?, readBase?_lower, lower, List.isEmpty_map, List.length_map]

theorem readByte?_lower (s : List Char) : readByte? (lower s) = readByte? s := by
  cases h : s.all Char.isDigit with
  | true => rw [lower_eq_self h]
  | false => simp [readByte?, all_isDigit_lower, h]

theorem readDotted?_lower (s : List Char) : readDotted? (lower s) = readDotted? s := by
  rw [readDotted?, readDotted?, splitWhere_lower (beq_toLower (by decide)), List.mapM_map]
  simp only [Function.comp_def, readByte?_lower]

theorem readGroups?_map_lower (dotted : Bool) (groups : List (List Char)) :
    readGroups? dotted (groups.map lower) = readGroups? dotted groups := by
  induction groups with
  | nil => rfl
  | cons g rest ih =>
    cases rest with
    | nil =>
      rw [List.map_cons, List.map_nil, readGroups?, readGroups?, readPiece?_lower,
        readDotted?_lower]
    | cons h rest =>
      rw [List.map_cons, List.map_cons, readGroups?, readGroups?, readPiece?_lower, ← ih]
      rfl

theorem readSide?_lower (dotted : Bool) (s : List Char) :
    readSide? dotted (lower s) = readSide? dotted s := by
  rw [readSide?, readSide?, splitWhere_lower (beq_toLower (by decide)), readGroups?_map_lower,
    lower, List.isEmpty_map]

theorem readIpv6?_lower (s : List Char) : readIpv6? (lower s) = readIpv6? s := by
  rw [readIpv6?, readIpv6?, splitGap_lower]
  cases splitGap s with
  | none => simp only [Option.map_none, readSide?_lower]
  | some p => simp only [Option.map_some, readSide?_lower]

theorem bracketed?_lower (s : List Char) : bracketed? (lower s) = (bracketed? s).map lower := by
  cases s with
  | nil => rfl
  | cons c r =>
    by_cases hc : c = '['
    · have hlast : ((lower r).getLast? == some ']') = (r.getLast? == some ']') := by
        rw [lower, List.getLast?_map]
        cases r.getLast? with
        | none => rfl
        | some d => simpa using beq_toLower (by decide) d
      have hlower : ('[' : Char).toLower = '[' := by decide
      rw [lower_cons, hc, hlower, bracketed?, bracketed?, hlast, lower, ← List.map_dropLast]
      split <;> rfl
    · have hc' : c.toLower ≠ '[' := fun h => hc ((toLower_eq_iff (by decide)).mp h)
      simp [lower_cons, bracketed?, hc, hc']

theorem Host.parseBracketed_lower (s : List Char) :
    Host.parseBracketed (lower s) = Host.parseBracketed s := by
  rw [Host.parseBracketed, Host.parseBracketed, bracketed?_lower, Option.bind_map]
  simp only [Function.comp_def, readIpv6?_lower]

/-! ### Decoding -/

theorem startsWithDigits_lower :
    Percent.StartsWithDigits (lower s) ↔ Percent.StartsWithDigits s := by
  constructor
  · rintro ⟨a, b, r, hs, ha, hb⟩
    obtain ⟨a, s, rfl, rfl, hrest⟩ := List.map_eq_cons_iff.mp hs
    obtain ⟨b, s, rfl, rfl, -⟩ := List.map_eq_cons_iff.mp hrest
    rw [hexValue?_toLower] at ha hb
    exact ⟨a, b, s, rfl, ha, hb⟩
  · rintro ⟨a, b, r, rfl, ha, hb⟩
    rw [← hexValue?_toLower] at ha hb
    exact ⟨_, _, lower r, rfl, ha, hb⟩

/-- **Texts in either case denote bytes in either case.** The letters of an escape make no
difference at all. -/
theorem map_lowerByte_decode (s : List Char) :
    (Percent.decode (lower s)).map Utf8.lowerByte = (Percent.decode s).map Utf8.lowerByte := by
  have hchar (c : Char) : (String.utf8EncodeChar c.toLower).map Utf8.lowerByte =
      (String.utf8EncodeChar c).map Utf8.lowerByte := by
    rw [← Utf8.encodeChar_toLower, toLower_toLower, Utf8.encodeChar_toLower]
  induction s using Percent.escapes_induction with
  | nil => rfl
  | cons c r hc ih =>
    have hc' : c.toLower ≠ '%' := fun h => hc ((toLower_eq_iff (by decide)).mp h)
    rw [lower_cons, Percent.decode_cons_of_ne hc, Percent.decode_cons_of_ne hc', List.map_append,
      List.map_append, hchar, ih]
  | percent r hr ih =>
    have hlower : lower ('%' :: r) = '%' :: lower r := rfl
    rw [hlower, Percent.decode_percent_of_not hr,
      Percent.decode_percent_of_not (startsWithDigits_lower.not.mpr hr), List.map_cons,
      List.map_cons, ih]
  | escape a b r ha hb ih =>
    have hlower : lower ('%' :: a :: b :: r) = '%' :: a.toLower :: b.toLower :: lower r := rfl
    have ha' := (hexValue?_toLower a).trans ha
    have hb' := (hexValue?_toLower b).trans hb
    rw [hlower, Percent.decode_percent_of_hex ha hb, Percent.decode_percent_of_hex ha' hb',
      List.map_cons, List.map_cons, ih]

/-! ### Names and hosts -/

theorem mapChar?_toLower (c : Char) : Domain.mapChar? c.toLower = Domain.mapChar? c := by
  cases hu : c.isUpper with
  | false => rw [toLower_eq_self hu]
  | true =>
    have hc := toNat_lt_of_isUpper hu
    have hc' : c.toLower.toNat < 0x80 := by
      have hall : decide (c.toLower.toNat < 0x80) = true :=
        forall_ascii (p := fun c => decide (c.toLower.toNat < 0x80)) (by decide) hc
      exact of_decide_eq_true hall
    rw [Domain.mapChar?_of_ascii hc, Domain.mapChar?_of_ascii hc', toLower_toLower]

theorem toAscii?_lower (s : List Char) : Domain.toAscii? (lower s) = Domain.toAscii? s := by
  rw [Domain.toAscii?, Domain.toAscii?, lower, List.mapM_map]
  simp only [Function.comp_def, mapChar?_toLower]

/-- What is decoded is mapped to the same name in either case. -/
theorem toAscii?_decodeTerm?_lower (s : List Char) :
    (Percent.decodeTerm? (lower s)).bind Domain.toAscii? =
      (Percent.decodeTerm? s).bind Domain.toAscii? := by
  have hbytes : ∀ bytes : List UInt8, (Utf8.decodeStrict? bytes).bind Domain.toAscii? =
      (Utf8.decodeStrict? (bytes.map Utf8.lowerByte)).bind Domain.toAscii? := by
    intro bytes
    rw [Utf8.decodeStrict?_map_lowerByte, Option.bind_map]
    simp only [Function.comp_def, toAscii?_lower]
  rw [Percent.decodeTerm?, Percent.decodeTerm?, hbytes, map_lowerByte_decode, ← hbytes]

/-- **A host is read in either case.** -/
theorem Host.parse_lower (s : List Char) : Host.parse (lower s) = Host.parse s := by
  have hhead : ((lower s).head? == some '[') = (s.head? == some '[') := by
    rw [Bool.eq_iff_iff, beq_iff_eq, beq_iff_eq, head?_lower (by decide)]
  rw [Host.parse, Host.parse, hhead, toAscii?_decodeTerm?_lower, Host.parseBracketed_lower]

end Metasearch.Url
