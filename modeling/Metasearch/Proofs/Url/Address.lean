import Mathlib.Algebra.Group.Nat.Defs
import Metasearch.Proofs.Encoding.Percent
import Metasearch.Proofs.Number.Decimal
import Metasearch.Proofs.Text.Pieces
import Metasearch.Url.Host
import Metasearch.Url.Printer

/-!
# Addresses written and read

A numeral is read digit by digit from the left and written digit by digit from the right, so the two
meet in a lemma on a last digit, `readBase?_concat`. From numerals to addresses it is a matter of
the marks between them: neither kind of numeral holds a dot or a colon.

What an IPv6 address leaves out is described by `longestZeroRun_spec` as a piece of the list, with
no word on its being the longest: reading back does not care which run of zeros was cut.

## Main results

* `readIpv4?_ipv4Text`, `readIpv6?_ipv6Text`: an address is read back.
* `lt_of_readIpv4?`, `readIpv6?_bounds`: what is read is an address.
-/

namespace Metasearch.Url

open Metasearch.Text Metasearch.Number Metasearch.Encoding

variable {c : Char} {s t : List Char} {n base d : Nat} {pieces front back : List Nat}

/-! ### Numerals -/

theorem readBase?_concat (base : Nat) (s : List Char) (c : Char) :
    readBase? base (s ++ [c]) = (readBase? base s).bind fun a =>
      (hexValue? c).bind fun d => if d < base then some (a * base + d) else none := by
  rw [readBase?, List.foldl_append]
  rfl

theorem readBase?_digit (hc : hexValue? c = some d) (hd : d < base)
    (hs : readBase? base s = some n) : readBase? base (s ++ [c]) = some (n * base + d) := by
  rw [readBase?_concat, hs, Option.bind_some, hc, Option.bind_some, if_pos hd]

theorem hexValue?_digitChar (h : d < 10) : hexValue? (digitChar d) = some d :=
  (by decide : ∀ e < 10, hexValue? (digitChar e) = some e) d h

theorem readBase?_numeral (n : Nat) : readBase? 10 (numeral n) = some n := by
  induction n using numeral.induct with
  | case1 n hn =>
    rw [numeral, if_pos hn]
    have h := readBase?_digit (s := []) (hexValue?_digitChar hn) hn rfl
    rwa [Nat.zero_mul, Nat.zero_add] at h
  | case2 n hn ih =>
    have hlt : n % 10 < 10 := Nat.mod_lt _ (by decide)
    rw [numeral, if_neg hn, readBase?_digit (hexValue?_digitChar hlt) hlt ih]
    exact congrArg some (Nat.div_add_mod' n 10)

theorem readBase?_hexNumeral (n : Nat) : readBase? 16 (hexNumeral n) = some n := by
  induction n using hexNumeral.induct with
  | case1 n hn =>
    rw [hexNumeral, if_pos hn]
    have h := readBase?_digit (s := []) (hexValue?_hexDigit hn) hn rfl
    rwa [Nat.zero_mul, Nat.zero_add] at h
  | case2 n hn ih =>
    have hlt : n % 16 < 16 := Nat.mod_lt _ (by decide)
    rw [hexNumeral, if_neg hn, readBase?_digit (hexValue?_hexDigit hlt) hlt ih]
    exact congrArg some (Nat.div_add_mod' n 16)

/-- A numeral denotes less than the power of its base that its length tells. -/
theorem lt_of_readBase? (h : readBase? base s = some n) : n < base ^ s.length := by
  induction s using List.reverseRecOn generalizing n with
  | nil =>
    obtain rfl := Option.some.inj h
    exact Nat.one_pos
  | append_singleton s c ih =>
    rw [readBase?_concat] at h
    obtain ⟨a, ha, h⟩ := Option.bind_eq_some_iff.mp h
    obtain ⟨d, -, h⟩ := Option.bind_eq_some_iff.mp h
    split at h
    · rename_i hd
      obtain rfl := Option.some.inj h
      rw [List.length_append, List.length_singleton, Nat.pow_succ]
      calc a * base + d < a * base + base := Nat.add_lt_add_left hd _
        _ = (a + 1) * base := (Nat.succ_mul a base).symm
        _ ≤ base ^ s.length * base := Nat.mul_le_mul_right base (ih ha)
    · exact absurd h (Option.some_ne_none n).symm

theorem hexNumeral_ne_nil (n : Nat) : hexNumeral n ≠ [] := by
  rw [hexNumeral]
  split
  · exact List.cons_ne_nil _ _
  · exact List.append_ne_nil_of_right_ne_nil _ (List.cons_ne_nil _ _)

theorem isSome_of_mem_hexNumeral (h : c ∈ hexNumeral n) : (hexValue? c).isSome := by
  induction n using hexNumeral.induct with
  | case1 n hn =>
    rw [hexNumeral, if_pos hn, List.mem_singleton] at h
    rw [h, hexValue?_hexDigit hn]
    rfl
  | case2 n hn ih =>
    rw [hexNumeral, if_neg hn] at h
    rcases List.mem_append.mp h with h | h
    · exact ih h
    · rw [List.mem_singleton.mp h, hexValue?_hexDigit (Nat.mod_lt _ (by decide))]
      rfl

theorem length_hexNumeral_le {k : Nat} (h : n < 16 ^ (k + 1)) : (hexNumeral n).length ≤ k + 1 := by
  induction k generalizing n with
  | zero =>
    rw [hexNumeral, if_pos (by simpa using h)]
    exact Nat.le_refl 1
  | succ k ih =>
    rw [hexNumeral]
    split
    · exact Nat.le_add_left 1 _
    · rw [List.length_append, List.length_singleton]
      have hdiv : n / 16 < 16 ^ (k + 1) :=
        Nat.div_lt_of_lt_mul (by rwa [Nat.mul_comm, ← Nat.pow_succ])
      exact Nat.add_le_add_right (ih hdiv) 1

theorem readPart?_numeral (n : Nat) : readPart? (numeral n) = some n := by
  rcases Nat.eq_zero_or_pos n with rfl | hn
  · rw [numeral_zero]
    rfl
  · have hhead := head?_numeral hn
    rw [← readBase?_numeral n]
    cases h : numeral n with
    | nil => exact absurd h (numeral_ne_nil n)
    | cons c r =>
      have hc : c ≠ '0' := by simpa [h] using hhead
      -- the first four equations of the reader ask for an empty text or a leading zero
      rw [readPart?] <;> simp [hc]

/-! ### IPv4 -/

theorem ne_dot_of_mem_numeral (h : c ∈ numeral n) : c ≠ '.' := by
  rintro rfl
  exact absurd (isDigit_of_mem_numeral h) (by decide)

/-- The four bytes of an address. -/
def bytes (address : Nat) : List Nat :=
  [address / 16777216, address / 65536 % 256, address / 256 % 256, address % 256]

theorem labels_ipv4Text (a : Nat) : labels (ipv4Text a) = (bytes a).map numeral := by
  have hsplit : splitWhere (· == '.') (ipv4Text a) = (bytes a).map numeral := by
    refine splitWhere_joinWith (p := (· == '.')) (List.cons_ne_nil _ _) rfl ?_
    intro s hs c hc
    obtain ⟨n, -, rfl⟩ := List.mem_map.mp hs
    exact beq_false_of_ne (ne_dot_of_mem_numeral hc)
  rw [labels, hsplit]
  refine if_neg ?_
  simp [bytes, numeral_ne_nil]

/-- What the bytes before the last part come to. -/
def frontSum (front : List Nat) : Nat :=
  front.foldr (fun b acc => acc / 256 + b * 16777216) 0

theorem frontSum_cons (b : Nat) (rest : List Nat) :
    frontSum (b :: rest) = frontSum rest / 256 + b * 16777216 := by
  rw [frontSum, List.foldr_cons, ← frontSum]

theorem frontSum_nil : frontSum [] = 0 := by
  rw [frontSum, List.foldr_nil]

theorem joinParts?_concat (front : List Nat) (last : Nat) :
    joinParts? (front ++ [last]) =
      if 3 < front.length ∨ (∃ b ∈ front, 255 < b) ∨ twoTo (8 * (4 - front.length)) ≤ last then none
      else some (frontSum front + last) := by
  obtain ⟨p, rest, hcons⟩ := List.exists_cons_of_ne_nil
    (List.append_ne_nil_of_right_ne_nil front (List.cons_ne_nil last []))
  have hlast : (p :: rest).getLast?.getD p = last := by rw [← hcons, List.getLast?_concat]; rfl
  have hfront : (p :: rest).dropLast = front := by rw [← hcons, List.dropLast_concat]
  have hlength : (p :: rest).length = front.length + 1 := by rw [← hcons, List.length_append]; rfl
  rw [hcons, joinParts?, hlast, hfront, hlength, frontSum]
  simp only [Bool.or_eq_true, decide_eq_true_eq, List.any_eq_true, or_assoc,
    Nat.succ_lt_succ_iff]

theorem joinParts?_bytes {a : Nat} (ha : a < count32) : joinParts? (bytes a) = some a := by
  rw [count32] at ha
  have hsum : frontSum [a / 16777216, a / 65536 % 256, a / 256 % 256] + a % 256 = a := by
    rw [frontSum_cons, frontSum_cons, frontSum_cons, frontSum_nil]
    omega
  have hrange : ∀ b ∈ [a / 16777216, a / 65536 % 256, a / 256 % 256], b ≤ 255 := by
    intro b hb
    simp only [List.mem_cons, List.not_mem_nil, or_false] at hb
    omega
  have hlast : a % 256 < twoTo (8 * (4 - 3)) := Nat.mod_lt a (by decide)
  have hparts : bytes a = [a / 16777216, a / 65536 % 256, a / 256 % 256] ++ [a % 256] := rfl
  rw [hparts, joinParts?_concat, hsum, if_neg]
  rintro (h | ⟨b, hb, h⟩ | h)
  · exact absurd h (Nat.lt_irrefl 3)
  · exact absurd (hrange b hb) (Nat.not_le.mpr h)
  · exact absurd hlast (Nat.not_lt.mpr h)

theorem readIpv4?_ipv4Text {a : Nat} (ha : a < count32) : readIpv4? (ipv4Text a) = some a := by
  rw [readIpv4?, labels_ipv4Text, mapM_map fun n _ => readPart?_numeral n, Option.bind_some,
    joinParts?_bytes ha]

theorem endsInNumber_ipv4Text (a : Nat) : endsInNumber (ipv4Text a) = true := by
  have hlast : ((bytes a).map numeral).getLast? = some (numeral (a % 256)) := rfl
  have hdigits : (numeral (a % 256)).all Char.isDigit = true :=
    List.all_eq_true.mpr fun c hc => isDigit_of_mem_numeral hc
  rw [endsInNumber, labels_ipv4Text, hlast]
  simp only [hdigits, List.isEmpty_eq_false_iff.mpr (numeral_ne_nil _), Bool.not_false,
    Bool.and_self, Bool.true_or]

theorem mem_ipv4Text {a : Nat} (h : c ∈ ipv4Text a) : c.isDigit ∨ c = '.' := by
  rcases mem_joinWith h with ⟨s, hs, hc⟩ | hc
  · obtain ⟨n, -, rfl⟩ := List.mem_map.mp hs
    exact Or.inl (isDigit_of_mem_numeral hc)
  · exact Or.inr (List.mem_singleton.mp hc)

/-- Bytes leave room below 32 bits for as many bits as are left to the last part. -/
theorem frontSum_le {front : List Nat} (hlength : front.length ≤ 3) (h : ∀ b ∈ front, b ≤ 255) :
    frontSum front + twoTo (8 * (4 - front.length)) ≤ count32 := by
  rw [count32]
  match front, hlength, h with
  | [], _, _ =>
    rw [frontSum_nil, List.length_nil, show twoTo (8 * (4 - 0)) = 4294967296 from rfl]
  | [p], _, h =>
    have hp := h p (by simp)
    rw [frontSum_cons, frontSum_nil, show twoTo (8 * (4 - [p].length)) = 16777216 from rfl]
    omega
  | [p, q], _, h =>
    have hp := h p (by simp)
    have hq := h q (by simp)
    rw [frontSum_cons, frontSum_cons, frontSum_nil,
      show twoTo (8 * (4 - [p, q].length)) = 65536 from rfl]
    omega
  | [p, q, r], _, h =>
    have hp := h p (by simp)
    have hq := h q (by simp)
    have hr := h r (by simp)
    rw [frontSum_cons, frontSum_cons, frontSum_cons, frontSum_nil,
      show twoTo (8 * (4 - [p, q, r].length)) = 256 from rfl]
    omega

/-- Parts that are in range make an address of 32 bits. -/
theorem lt_of_joinParts? {parts : List Nat} {a : Nat} (h : joinParts? parts = some a) :
    a < count32 := by
  rcases List.eq_nil_or_concat parts with rfl | ⟨front, last, rfl⟩
  · exact absurd h (Option.some_ne_none a).symm
  · rw [List.concat_eq_append, joinParts?_concat] at h
    split at h
    · exact absurd h (Option.some_ne_none a).symm
    · rename_i hok
      obtain rfl := Option.some.inj h
      obtain ⟨hlength, hrest⟩ := not_or.mp hok
      obtain ⟨hfront, hlast⟩ := not_or.mp hrest
      refine Nat.lt_of_lt_of_le (Nat.add_lt_add_left (Nat.lt_of_not_le hlast) _)
        (frontSum_le (Nat.le_of_not_lt hlength) ?_)
      exact fun b hb => Nat.le_of_not_lt fun hlt => hfront ⟨b, hb, hlt⟩

theorem lt_of_readIpv4? {a : Nat} (h : readIpv4? s = some a) : a < count32 := by
  obtain ⟨parts, -, h⟩ := Option.bind_eq_some_iff.mp h
  exact lt_of_joinParts? h

/-! ### IPv6: the run that is cut out -/

/-- The run of zeros is a piece of the list. -/
theorem longestZeroRun_spec (i : Nat) (pieces : List Nat) :
    ∃ front back, pieces = front ++ List.replicate (longestZeroRun i pieces).2 0 ++ back ∧
      (longestZeroRun i pieces).1 = i + front.length := by
  induction pieces generalizing i with
  | nil => exact ⟨[], [], rfl, rfl⟩
  | cons p rest ih =>
    have hhere : p :: rest = List.replicate (zeroRun (p :: rest)) 0 ++
        (p :: rest).dropWhile (· == 0) := by
      conv_lhs => rw [← List.takeWhile_append_dropWhile (p := (· == 0)) (l := p :: rest)]
      refine congrArg (· ++ _) (List.eq_replicate_iff.mpr ⟨rfl, ?_⟩)
      exact fun q hq => eq_of_beq (List.mem_takeWhile_imp (p := (· == 0)) hq)
    rw [longestZeroRun]
    split
    · exact ⟨[], _, hhere, rfl⟩
    · obtain ⟨front, back, hrest, hstart⟩ := ih (i + 1)
      refine ⟨p :: front, back, ?_, ?_⟩
      · rw [List.cons_append, List.cons_append, ← hrest]
      · rw [hstart, List.length_cons]
        omega

/-! ### IPv6: groups -/

/-- Pieces in hexadecimal with colons between them. -/
def groupsText (pieces : List Nat) : List Char :=
  joinWith [':'] (pieces.map hexNumeral)

theorem ne_colon_of_mem_hexNumeral (h : c ∈ hexNumeral n) : c ≠ ':' := by
  rintro rfl
  exact absurd (isSome_of_mem_hexNumeral h) (by decide)

theorem groupsText_cons (p q : Nat) (rest : List Nat) :
    groupsText (p :: q :: rest) = hexNumeral p ++ ':' :: groupsText (q :: rest) := by
  rw [groupsText, List.map_cons, List.map_cons, joinWith, List.append_assoc]
  rfl

theorem groupsText_ne_nil (p : Nat) (rest : List Nat) : groupsText (p :: rest) ≠ [] := by
  cases rest with
  | nil => exact hexNumeral_ne_nil p
  | cons q rest =>
    rw [groupsText_cons]
    exact List.append_ne_nil_of_left_ne_nil (hexNumeral_ne_nil p) _

theorem head?_groupsText (p : Nat) (rest : List Nat) :
    (groupsText (p :: rest)).head? ≠ some ':' := by
  have hhead : (groupsText (p :: rest)).head? = (hexNumeral p).head? := by
    cases rest with
    | nil => rfl
    | cons q rest => rw [groupsText_cons, List.head?_append_of_ne_nil _ (hexNumeral_ne_nil p)]
  rw [hhead]
  intro h
  exact ne_colon_of_mem_hexNumeral (List.mem_of_head? h) rfl

theorem readPiece?_hexNumeral (h : n < 65536) : readPiece? (hexNumeral n) = some n := by
  have hlength : (hexNumeral n).length ≤ 4 := length_hexNumeral_le h
  rw [readPiece?, if_neg, readBase?_hexNumeral]
  simp [hexNumeral_ne_nil, hlength]

theorem readGroups?_map (dotted : Bool) (h : ∀ p ∈ pieces, p < 65536) :
    readGroups? dotted (pieces.map hexNumeral) = some pieces := by
  induction pieces with
  | nil => rfl
  | cons p rest ih =>
    have hp := readPiece?_hexNumeral (h p List.mem_cons_self)
    cases rest with
    | nil => rw [List.map_cons, List.map_nil, readGroups?, hp]
    | cons q rest =>
      have hrest := ih fun p hp => h p (List.mem_cons_of_mem _ hp)
      rw [List.map_cons] at hrest
      rw [List.map_cons, List.map_cons, readGroups?, hp, hrest]
      rfl

/-- One side of `::` is read back, and so is an address without it. -/
theorem readSide?_groupsText (dotted : Bool) (h : ∀ p ∈ pieces, p < 65536) :
    readSide? dotted (groupsText pieces) = some pieces := by
  cases pieces with
  | nil => rfl
  | cons p rest =>
    have hsplit : splitWhere (· == ':') (groupsText (p :: rest)) = (p :: rest).map hexNumeral := by
      refine splitWhere_joinWith (p := (· == ':')) (List.cons_ne_nil _ _) rfl ?_
      intro s hs c hc
      obtain ⟨n, -, rfl⟩ := List.mem_map.mp hs
      exact beq_false_of_ne (ne_colon_of_mem_hexNumeral hc)
    rw [readSide?, List.isEmpty_eq_false_iff.mpr (groupsText_ne_nil p rest), hsplit]
    exact readGroups?_map dotted h

/-! ### IPv6: the gap -/

theorem splitGap_append (hs : ∀ c ∈ s, c ≠ ':') (t : List Char) :
    splitGap (s ++ t) = (splitGap t).map fun p => (s ++ p.1, p.2) := by
  induction s with
  | nil => simp
  | cons c r ih =>
    have hc : c ≠ ':' := hs c List.mem_cons_self
    rw [List.cons_append, splitGap, ih fun d hd => hs d (List.mem_cons_of_mem c hd),
      Option.map_map]
    · rfl
    · rintro r' rfl
      exact absurd rfl hc

theorem splitGap_colon (h : t.head? ≠ some ':') :
    splitGap (':' :: t) = (splitGap t).map fun p => (':' :: p.1, p.2) := by
  rw [splitGap]
  rintro r - rfl
  exact h rfl

/-- Groups are passed over on the way to the gap: no colon between them stands beside another. -/
theorem splitGap_groupsText (pieces : List Nat) (t : List Char) :
    splitGap (groupsText pieces ++ t) =
      (splitGap t).map fun p => (groupsText pieces ++ p.1, p.2) := by
  induction pieces with
  | nil => simp [groupsText, joinWith]
  | cons p rest ih =>
    cases rest with
    | nil => exact splitGap_append (fun c hc => ne_colon_of_mem_hexNumeral hc) t
    | cons q rest =>
      have hhead : (groupsText (q :: rest) ++ t).head? ≠ some ':' := by
        rw [List.head?_append_of_ne_nil _ (groupsText_ne_nil q rest)]
        exact head?_groupsText q rest
      rw [groupsText_cons, List.append_assoc, List.cons_append,
        splitGap_append fun c hc => ne_colon_of_mem_hexNumeral hc, splitGap_colon hhead, ih,
        Option.map_map, Option.map_map]
      simp [Function.comp_def]

/-- **An IPv6 address is read back.** -/
theorem readIpv6?_ipv6Text (hlength : pieces.length = 8) (h : ∀ p ∈ pieces, p < 65536) :
    readIpv6? (ipv6Text pieces) = some pieces := by
  obtain ⟨front, back, hpieces, hstart⟩ := longestZeroRun_spec 0 pieces
  rw [ipv6Text]
  generalize hrun : longestZeroRun 0 pieces = run at hpieces hstart
  obtain ⟨start, length⟩ := run
  simp only [Nat.zero_add] at hpieces hstart
  dsimp only
  split
  · have hgap : splitGap (groupsText pieces) = none := by
      have := splitGap_groupsText pieces []
      rwa [List.append_nil] at this
    change readIpv6? (groupsText pieces) = some pieces
    rw [readIpv6?, hgap]
    simp only [readSide?_groupsText true h, Option.bind_eq_bind, Option.bind_some, hlength, if_true]
  · have hcount : front.length + length + back.length = 8 := by
      rw [← hlength, hpieces]
      simp only [List.length_append, List.length_replicate]
    have htake : pieces.take start = front := by
      rw [hpieces, hstart, List.append_assoc, List.take_left]
    have hdrop : pieces.drop (start + length) = back := by
      rw [hpieces, hstart]
      refine List.drop_left' ?_
      rw [List.length_append, List.length_replicate]
    have hfront : ∀ p ∈ front, p < 65536 := fun p hp => h p (by rw [hpieces]; simp [hp])
    have hback : ∀ p ∈ back, p < 65536 := fun p hp => h p (by rw [hpieces]; simp [hp])
    have hgap : splitGap (groupsText front ++ ':' :: ':' :: groupsText back) =
        some (groupsText front, groupsText back) := by
      rw [splitGap_groupsText, splitGap, Option.map_some, List.append_nil]
    have hzeros : 8 - front.length - back.length = length := by omega
    rw [htake, hdrop]
    change readIpv6? (groupsText front ++ ':' :: ':' :: groupsText back) = some pieces
    rw [readIpv6?, hgap]
    simp only [readSide?_groupsText false hfront, readSide?_groupsText true hback,
      Option.bind_eq_bind, Option.bind_some, hzeros]
    rw [if_pos (by omega), ← hpieces]

theorem mem_groupsText (h : c ∈ groupsText pieces) : (hexValue? c).isSome ∨ c = ':' := by
  rcases mem_joinWith h with ⟨s, hs, hc⟩ | hc
  · obtain ⟨n, -, rfl⟩ := List.mem_map.mp hs
    exact Or.inl (isSome_of_mem_hexNumeral hc)
  · exact Or.inr (List.mem_singleton.mp hc)

theorem mem_ipv6Text (h : c ∈ ipv6Text pieces) : (hexValue? c).isSome ∨ c = ':' := by
  rw [ipv6Text] at h
  dsimp only at h
  split at h
  · exact mem_groupsText h
  · rcases List.mem_append.mp h with h | h
    · exact mem_groupsText h
    · rcases List.mem_cons.mp h with h | h
      · exact Or.inr h
      · rcases List.mem_cons.mp h with h | h
        · exact Or.inr h
        · exact mem_groupsText h

/-! ### IPv6: what is read -/

theorem lt_of_readPiece? (h : readPiece? s = some n) : n < 65536 := by
  rw [readPiece?] at h
  split at h
  · exact absurd h (Option.some_ne_none n).symm
  · rename_i hok
    have hlength : s.length ≤ 4 := by
      simp only [Bool.or_eq_true, decide_eq_true_eq, not_or, Nat.not_lt] at hok
      exact hok.2
    exact Nat.lt_of_lt_of_le (lt_of_readBase? h) (Nat.pow_le_pow_right (by decide) hlength)

theorem lt_of_readByte? (h : readByte? s = some n) : n < 256 := by
  rw [readByte?] at h
  split at h
  · exact absurd h (Option.some_ne_none n).symm
  · split at h
    · obtain rfl := Option.some.inj h
      omega
    · exact absurd h (Option.some_ne_none n).symm

theorem lt_of_readDotted? (h : readDotted? s = some pieces) : ∀ p ∈ pieces, p < 65536 := by
  rw [readDotted?] at h
  split at h
  · rename_i a b c d hbytes
    have hbyte : ∀ x ∈ [a, b, c, d], x < 256 := fun x hx => by
      obtain ⟨t, -, ht⟩ := exists_of_mem_mapM hbytes hx
      exact lt_of_readByte? ht
    have ha := hbyte a (by simp)
    have hb := hbyte b (by simp)
    have hc := hbyte c (by simp)
    have hd := hbyte d (by simp)
    obtain rfl := Option.some.inj h
    intro p hp
    simp only [List.mem_cons, List.not_mem_nil, or_false] at hp
    omega
  · exact absurd h (Option.some_ne_none pieces).symm

theorem lt_of_readGroups? {dotted : Bool} {groups : List (List Char)}
    (h : readGroups? dotted groups = some pieces) : ∀ p ∈ pieces, p < 65536 := by
  fun_induction readGroups? dotted groups generalizing pieces with
  | case1 =>
    obtain rfl := Option.some.inj h
    exact fun p hp => absurd hp List.not_mem_nil
  | case2 g p hp =>
    obtain rfl := Option.some.inj h
    intro q hq
    rw [List.mem_singleton.mp hq]
    exact lt_of_readPiece? hp
  | case3 g hp hd => exact lt_of_readDotted? h
  | case4 g hp hd => exact absurd h (Option.some_ne_none pieces).symm
  | case5 g g' rest ih =>
    obtain ⟨p, hp, h⟩ := Option.bind_eq_some_iff.mp h
    obtain ⟨ps, hps, h⟩ := Option.bind_eq_some_iff.mp h
    obtain rfl := Option.some.inj h
    intro q hq
    rcases List.mem_cons.mp hq with rfl | hq
    · exact lt_of_readPiece? hp
    · exact ih hps q hq

theorem lt_of_readSide? {dotted : Bool} (h : readSide? dotted s = some pieces) :
    ∀ p ∈ pieces, p < 65536 := by
  rw [readSide?] at h
  split at h
  · obtain rfl := Option.some.inj h
    exact fun p hp => absurd hp List.not_mem_nil
  · exact lt_of_readGroups? h

/-- What is read as an IPv6 address is eight numbers of 16 bits. -/
theorem readIpv6?_bounds (h : readIpv6? s = some pieces) :
    pieces.length = 8 ∧ ∀ p ∈ pieces, p < 65536 := by
  rw [readIpv6?] at h
  split at h
  · obtain ⟨ps, hps, h⟩ := Option.bind_eq_some_iff.mp h
    split at h
    · rename_i hlength
      obtain rfl := Option.some.inj h
      exact ⟨hlength, lt_of_readSide? hps⟩
    · exact absurd h (Option.some_ne_none pieces).symm
  · obtain ⟨ls, hls, h⟩ := Option.bind_eq_some_iff.mp h
    obtain ⟨rs, hrs, h⟩ := Option.bind_eq_some_iff.mp h
    split at h
    · rename_i hlength
      obtain rfl := Option.some.inj h
      refine ⟨?_, ?_⟩
      · simp only [List.length_append, List.length_replicate]
        omega
      · intro p hp
        rcases List.mem_append.mp hp with hp | hp
        · rcases List.mem_append.mp hp with hp | hp
          · exact lt_of_readSide? hls p hp
          · rw [(List.mem_replicate.mp hp).2]
            decide
        · exact lt_of_readSide? hrs p hp
    · exact absurd h (Option.some_ne_none pieces).symm

end Metasearch.Url
