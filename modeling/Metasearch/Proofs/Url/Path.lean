import Metasearch.Proofs.Encoding.Percent
import Metasearch.Proofs.Text.Pieces
import Metasearch.Url.Parser

/-!
# Paths written and read

A segment of dots never stays in a path, and a dot may be escaped. Whether a segment is one of these
is told by the bytes that it denotes, and escaping keeps those. So a segment that was none before it
was escaped is none afterwards, and reading the path again leaves it where it is.

## Main definitions

* `IsSegment`, `Path.IsProper`: what reading gives.

## Main results

* `isDoubleDot_iff`, `isSingleDot_iff`: dots by their bytes.
* `isProper_pathAfterAuthority`, `pathAfterAuthority_toText`.
-/

namespace Metasearch.Url

open Metasearch.Text Metasearch.Number Metasearch.Encoding

variable {c : Char} {s r t : List Char} {bytes : List UInt8} {parts done : List (List Char)}

/-! ### Dots by their bytes -/

theorem eq_of_hexValue?_two (h : hexValue? c = some 2) : c = '2' := by
  have hall : (hexValue? c != some 2 || c == '2') = true :=
    forall_ascii (p := fun c => hexValue? c != some 2 || c == '2') (by decide)
      (Percent.toNat_lt_of_hexValue? (by rw [h]; rfl))
  simpa [h] using hall

theorem eq_of_hexValue?_fourteen (h : hexValue? c = some 14) : c = 'e' ∨ c = 'E' := by
  have hall : (hexValue? c != some 14 || (c == 'e' || c == 'E')) = true :=
    forall_ascii (p := fun c => hexValue? c != some 14 || (c == 'e' || c == 'E')) (by decide)
      (Percent.toNat_lt_of_hexValue? (by rw [h]; rfl))
  simpa [h] using hall

theorem lt_of_hexValue? {n : Nat} (h : hexValue? c = some n) : n < 16 := by
  rw [hexValue?, digitIn?] at h
  simp only [Option.ite_none_right_eq_some, Option.some.injEq] at h
  omega

/-- A dot, or one that is escaped, is what denotes the byte of a dot. -/
theorem decode_eq_dot_cons (h : Percent.decode s = 0x2E :: bytes) :
    ∃ r, (s = '.' :: r ∨ ∃ e, (e = 'e' ∨ e = 'E') ∧ s = '%' :: '2' :: e :: r) ∧
      Percent.decode r = bytes := by
  cases s with
  | nil => exact absurd h (List.cons_ne_nil _ _).symm
  | cons c r =>
    rcases Percent.decode_cons_cases c r with ⟨a, b, t, x, y, rfl, rfl, hx, hy⟩ | hdecode
    · rw [Percent.decode_percent_of_hex hx hy] at h
      obtain ⟨hbyte, hrest⟩ := List.cons.inj h
      have hx16 := lt_of_hexValue? hx
      have hy16 := lt_of_hexValue? hy
      have hval : x * 16 + y = 46 := by
        have := congrArg UInt8.toNat hbyte
        rwa [UInt8.toNat_ofNat', Nat.mod_eq_of_lt (by omega)] at this
      obtain rfl : x = 2 := by omega
      obtain rfl : y = 14 := by omega
      obtain rfl := eq_of_hexValue?_two hx
      exact ⟨t, Or.inr ⟨b, eq_of_hexValue?_fourteen hy, rfl⟩, hrest⟩
    · rw [hdecode] at h
      obtain ⟨hc, hrest⟩ := Utf8.eq_of_encodeChar_append h (by decide)
      exact ⟨r, Or.inl (by rw [hc]; rfl), hrest⟩

theorem decode_eq_nil (h : Percent.decode s = []) : s = [] := by
  cases s with
  | nil => rfl
  | cons c r =>
    rcases Percent.decode_cons_cases c r with ⟨a, b, t, x, y, rfl, rfl, hx, hy⟩ | hdecode
    · rw [Percent.decode_percent_of_hex hx hy] at h
      exact absurd h (List.cons_ne_nil _ _)
    · obtain ⟨b, more, hc, -⟩ := Utf8.readChar_encodeChar c []
      rw [hdecode, hc] at h
      exact absurd h (List.cons_ne_nil _ _)

theorem eq_of_toLower {d : Char} (hd : d ∈ ['.', '%', '2', 'e']) (h : c.toLower = d) :
    c = d ∨ d = 'e' ∧ c = 'E' := by
  cases hu : c.isUpper with
  | false =>
    rw [toLower_eq_self hu] at h
    exact Or.inl h
  | true =>
    have hascii : c.toNat < 0x80 := toNat_lt_of_isUpper hu
    have hall : (!c.isUpper || !(['.', '%', '2', 'e'].contains c.toLower) ||
        (c.toLower == 'e' && c == 'E')) = true :=
      forall_ascii (p := fun c => !c.isUpper || !(['.', '%', '2', 'e'].contains c.toLower) ||
        (c.toLower == 'e' && c == 'E')) (by decide) hascii
    rw [hu, h, List.contains_iff_mem.mpr hd] at hall
    exact Or.inr (by simpa using hall)

theorem lower_eq_cons {d : Char} {t : List Char} (hd : d ∈ ['.', '%', '2', 'e'])
    (h : lower s = d :: t) : ∃ c r, s = c :: r ∧ (c = d ∨ d = 'e' ∧ c = 'E') ∧ lower r = t := by
  obtain ⟨c, r, rfl, hc, hr⟩ := List.map_eq_cons_iff.mp h
  exact ⟨c, r, rfl, eq_of_toLower hd hc, hr⟩

/-- In either case, a dot or an escaped one denotes the byte of a dot. -/
theorem decode_of_lower_dot {t : List Char}
    (h : lower s = '.' :: t ∨ lower s = '%' :: '2' :: 'e' :: t) :
    ∃ r, Percent.decode s = 0x2E :: Percent.decode r ∧ lower r = t := by
  rcases h with h | h
  · obtain ⟨c, r, rfl, hc, hr⟩ := lower_eq_cons (by decide) h
    obtain rfl : c = '.' := hc.resolve_right fun he => absurd he.1 (by decide)
    exact ⟨r, Percent.decode_cons_of_ne (by decide) r, hr⟩
  · obtain ⟨c₁, r₁, rfl, hc₁, h⟩ := lower_eq_cons (by decide) h
    obtain ⟨c₂, r₂, rfl, hc₂, h⟩ := lower_eq_cons (by decide) h
    obtain ⟨c₃, r, rfl, hc₃, hr⟩ := lower_eq_cons (by decide) h
    obtain rfl : c₁ = '%' := hc₁.resolve_right fun he => absurd he.1 (by decide)
    obtain rfl : c₂ = '2' := hc₂.resolve_right fun he => absurd he.1 (by decide)
    have he : hexValue? c₃ = some 14 := by
      rcases hc₃ with rfl | ⟨-, rfl⟩ <;> decide
    have htwo : hexValue? '2' = some 2 := by decide
    exact ⟨r, Percent.decode_percent_of_hex htwo he r, hr⟩

theorem mem_of_contains {names : List String} (h : names.contains (String.ofList s) = true) :
    ∃ name ∈ names, s = name.toList := by
  refine ⟨_, List.contains_iff_mem.mp h, ?_⟩
  rw [String.toList_ofList]

/-- **A segment for its own place denotes a dot.** -/
theorem isSingleDot_iff : isSingleDot s = true ↔ Percent.decode s = [0x2E] := by
  constructor
  · intro h
    obtain ⟨name, hname, hs⟩ := mem_of_contains h
    have hdot : lower s = '.' :: [] ∨ lower s = '%' :: '2' :: 'e' :: [] := by
      simp only [List.mem_cons, List.not_mem_nil, or_false] at hname
      rcases hname with rfl | rfl
      · exact Or.inl hs
      · exact Or.inr hs
    obtain ⟨r, hdecode, hr⟩ := decode_of_lower_dot hdot
    obtain rfl := List.map_eq_nil_iff.mp hr
    exact hdecode
  · intro h
    obtain ⟨r, hs, hr⟩ := decode_eq_dot_cons h
    obtain rfl := decode_eq_nil hr
    rcases hs with rfl | ⟨e, rfl | rfl, rfl⟩ <;> decide

/-- **A segment for the parent denotes two dots.** -/
theorem isDoubleDot_iff : isDoubleDot s = true ↔ Percent.decode s = [0x2E, 0x2E] := by
  constructor
  · intro h
    obtain ⟨name, hname, hs⟩ := mem_of_contains h
    have hdot : ∃ t, (lower s = '.' :: t ∨ lower s = '%' :: '2' :: 'e' :: t) ∧
        (t = '.' :: [] ∨ t = '%' :: '2' :: 'e' :: []) := by
      simp only [List.mem_cons, List.not_mem_nil, or_false] at hname
      rcases hname with rfl | rfl | rfl | rfl
      · exact ⟨_, Or.inl hs, Or.inl rfl⟩
      · exact ⟨_, Or.inl hs, Or.inr rfl⟩
      · exact ⟨_, Or.inr hs, Or.inl rfl⟩
      · exact ⟨_, Or.inr hs, Or.inr rfl⟩
    obtain ⟨t, hs, ht⟩ := hdot
    obtain ⟨r, hfirst, rfl⟩ := decode_of_lower_dot hs
    obtain ⟨r', hsecond, hr'⟩ := decode_of_lower_dot ht
    obtain rfl := List.map_eq_nil_iff.mp hr'
    rw [hfirst, hsecond]
    rfl
  · intro h
    obtain ⟨r, hs, hr⟩ := decode_eq_dot_cons h
    obtain ⟨t, hr, ht⟩ := decode_eq_dot_cons hr
    obtain rfl := decode_eq_nil ht
    rcases hr with rfl | ⟨e, rfl | rfl, rfl⟩ <;> rcases hs with rfl | ⟨e, rfl | rfl, rfl⟩ <;> decide

/-! ### Segments -/

theorem keepInPath_percent : keepInPath '%' = true := by decide

theorem keepInPath_of_hex (h : (hexValue? c).isSome) : keepInPath c = true :=
  Percent.of_isSome_hexValue? (by decide) h

/-- A segment as it stands in a path. -/
structure IsSegment (s : List Char) : Prop where
  /-- Its characters stand for themselves. -/
  keep : ∀ c ∈ s, keepInPath c = true
  /-- None of them is a slash. -/
  slash : ∀ c ∈ s, isSlash true c = false
  /-- It is not that of the parent. -/
  parent : isDoubleDot s = false
  /-- It is not that of its own place. -/
  place : isSingleDot s = false

theorem isSegment_nil : IsSegment [] :=
  ⟨fun _ h => absurd h List.not_mem_nil, fun _ h => absurd h List.not_mem_nil, by decide, by decide⟩

/-- Escaping makes a segment of a piece of a path that is none of dots. -/
theorem isSegment_encode (hs : ∀ c ∈ s, isSlash true c = false) (hd : isDoubleDot s = false)
    (hp : isSingleDot s = false) : IsSegment (Percent.encode keepInPath s) where
  keep := Percent.forall_mem_encode keepInPath_percent (fun _ => keepInPath_of_hex) s
  slash := by
    intro c hc
    rcases Percent.mem_encode hc with ⟨hmem, -⟩ | rfl | hx
    · exact hs c hmem
    · decide
    · have hall : (!isSlash true c) = true :=
        Percent.of_isSome_hexValue? (p := fun c => !isSlash true c) (by decide) hx
      simpa using hall
  parent := by
    rw [← Bool.not_eq_true, isDoubleDot_iff,
      Percent.decode_encode_of_kept keepInPath_percent fun _ => keepInPath_of_hex,
      ← isDoubleDot_iff, hd]
    exact Bool.false_ne_true
  place := by
    rw [← Bool.not_eq_true, isSingleDot_iff,
      Percent.decode_encode_of_kept keepInPath_percent fun _ => keepInPath_of_hex,
      ← isSingleDot_iff, hp]
    exact Bool.false_ne_true

theorem IsSegment.encode_eq_self (h : IsSegment s) : Percent.encode keepInPath s = s :=
  Percent.encode_eq_self h.keep

/-! ### Paths -/

/-- A path that reading gives after an authority. -/
def Path.IsProper : Path → Prop
  | .segments parts => parts ≠ [] ∧ ∀ s ∈ parts, IsSegment s
  | .plain _ => False

theorem exists_of_isDrive (h : isDrive s = true) : ∃ d mark, s = [d, mark] ∧ d.isAlpha = true := by
  rw [isDrive.eq_def] at h
  split at h
  · rename_i d mark
    rw [Bool.and_eq_true] at h
    exact ⟨d, mark, rfl, h.1⟩
  · cases h

/-- **What there is after a piece of a path**: what was there before, nothing, a drive of a file, or
the piece if it is none of dots. -/
theorem mem_pushSegment {file last : Bool} (ht : t ∈ pushSegment file last done s) :
    t ∈ done ∨ t = [] ∨ (file = true ∧ ∃ d : Char, d.isAlpha = true ∧ t = [d, ':']) ∨
      isDoubleDot s = false ∧ isSingleDot s = false ∧ t = Percent.encode keepInPath s := by
  have hcons : ∀ {l : List (List Char)}, l ⊆ done → t ∈ (if last then [] :: l else l) →
      t ∈ done ∨ t = [] := by
    intro l hl ht
    split at ht
    · exact (List.mem_cons.mp ht).symm.imp_left fun ht => hl ht
    · exact Or.inl (hl ht)
  rw [pushSegment] at ht
  split at ht
  · have hup : (if file && done.length == 1 && done.any isDrive then done else done.drop 1) ⊆
        done := by
      split
      · exact List.Subset.refl done
      · exact (List.drop_suffix 1 done).subset
    exact (hcons hup ht).imp_right Or.inl
  rename_i hdouble
  split at ht
  · exact (hcons (List.Subset.refl done) ht).imp_right Or.inl
  rename_i hsingle
  split at ht
  · rename_i hdrive
    rw [Bool.and_eq_true, Bool.and_eq_true] at hdrive
    obtain ⟨d, mark, rfl, hd⟩ := exists_of_isDrive hdrive.2
    exact Or.inr (Or.inr (Or.inl ⟨hdrive.1.1, d, hd, List.mem_singleton.mp ht⟩))
  · rcases List.mem_cons.mp ht with rfl | ht
    · exact Or.inr (Or.inr (Or.inr ⟨by simpa using hdouble, by simpa using hsingle, rfl⟩))
    · exact Or.inl ht

/-- The last piece leaves a segment, be it an empty one. -/
theorem pushSegment_ne_nil (file : Bool) (done : List (List Char)) (s : List Char) :
    pushSegment file true done s ≠ [] := by
  rw [pushSegment]
  simp only [if_true]
  repeat' split
  all_goals exact List.cons_ne_nil _ _

/-- **What there is after all pieces of a path.** -/
theorem mem_pushSegments {file : Bool} {pieces : List (List Char)}
    (ht : t ∈ pushSegments file done pieces) :
    t ∈ done ∨ t = [] ∨ (file = true ∧ ∃ d : Char, d.isAlpha = true ∧ t = [d, ':']) ∨
      ∃ s ∈ pieces, isDoubleDot s = false ∧ isSingleDot s = false ∧
        t = Percent.encode keepInPath s := by
  induction pieces generalizing done with
  | nil => exact Or.inl ht
  | cons s rest ih =>
    have hfirst : ∀ {last}, t ∈ pushSegment file last done s → t ∈ done ∨ t = [] ∨
        (file = true ∧ ∃ d : Char, d.isAlpha = true ∧ t = [d, ':']) ∨
          ∃ s' ∈ s :: rest, isDoubleDot s' = false ∧ isSingleDot s' = false ∧
            t = Percent.encode keepInPath s' := fun ht =>
      (mem_pushSegment ht).imp_right <| Or.imp_right <| Or.imp_right fun h =>
        ⟨s, List.mem_cons_self, h⟩
    cases rest with
    | nil => exact hfirst ht
    | cons s' rest =>
      rcases ih ht with ht | ht | ht | ⟨u, hu, ht⟩
      · exact hfirst ht
      · exact Or.inr (Or.inl ht)
      · exact Or.inr (Or.inr (Or.inl ht))
      · exact Or.inr (Or.inr (Or.inr ⟨u, List.mem_cons_of_mem s hu, ht⟩))

theorem pushSegments_ne_nil (file : Bool) (done : List (List Char)) {pieces : List (List Char)}
    (hne : pieces ≠ []) : pushSegments file done pieces ≠ [] := by
  induction pieces generalizing done with
  | nil => exact absurd rfl hne
  | cons s rest ih =>
    cases rest with
    | nil => exact pushSegment_ne_nil file done s
    | cons t rest => exact ih _ (List.cons_ne_nil t rest)

theorem resolve_web (s : List Char) :
    resolve true false [] s = (pushSegments false [] (splitWhere (isSlash true) s)).reverse :=
  rfl

/-- **What reading gives is proper.** -/
theorem isProper_pathAfterAuthority (s : List Char) : (pathAfterAuthority true s).IsProper := by
  have hresolve : ∀ s, (Path.segments (resolve true false [] s)).IsProper := by
    intro s
    rw [resolve_web]
    refine ⟨?_, fun t ht => ?_⟩
    · exact List.reverse_eq_nil_iff.not.mpr
        (pushSegments_ne_nil false [] (splitWhere_ne_nil (isSlash true) s))
    · rcases mem_pushSegments (List.mem_reverse.mp ht) with ht | rfl | ⟨hfile, -⟩ |
        ⟨s', hs', hdouble, hsingle, rfl⟩
      · exact absurd ht List.not_mem_nil
      · exact isSegment_nil
      · exact absurd hfile Bool.false_ne_true
      · exact isSegment_encode (fun c hc => not_of_mem_splitWhere hs' hc) hdouble hsingle
  cases s with
  | nil =>
    refine ⟨List.cons_ne_nil _ _, fun t ht => ?_⟩
    rw [List.mem_singleton.mp ht]
    exact isSegment_nil
  | cons c r => exact hresolve _

/-! ### Reading it back -/

theorem pushSegment_of_isSegment (last : Bool) (done : List (List Char)) (h : IsSegment s) :
    pushSegment false last done s = s :: done := by
  rw [pushSegment, h.parent, h.place, h.encode_eq_self]
  rfl

theorem pushSegments_of_isSegment (done : List (List Char)) (h : ∀ s ∈ parts, IsSegment s) :
    pushSegments false done parts = parts.reverse ++ done := by
  induction parts generalizing done with
  | nil => rfl
  | cons s rest ih =>
    have hs := h s List.mem_cons_self
    cases rest with
    | nil => exact pushSegment_of_isSegment true done hs
    | cons t rest =>
      rw [pushSegments, pushSegment_of_isSegment false done hs,
        ih _ fun u hu => h u (List.mem_cons_of_mem s hu)]
      simp only [List.reverse_cons, List.append_assoc, List.cons_append, List.nil_append]

theorem segmentsText_cons (s : List Char) (rest : List (List Char)) :
    segmentsText (s :: rest) = '/' :: joinWith ['/'] (s :: rest) := by
  induction rest generalizing s with
  | nil => exact List.append_nil _
  | cons t rest ih =>
    have hcons : segmentsText (s :: t :: rest) = '/' :: s ++ segmentsText (t :: rest) :=
      List.flatMap_cons
    rw [hcons, ih, joinWith, List.append_assoc]
    rfl

/-- **A proper path is read back.** -/
theorem pathAfterAuthority_toText {p : Path} (h : p.IsProper) :
    pathAfterAuthority true p.toText = p := by
  cases p with
  | plain text => exact absurd h not_false
  | segments parts =>
    obtain ⟨hne, hall⟩ := h
    obtain ⟨s, rest, rfl⟩ := List.exists_cons_of_ne_nil hne
    have hsplit : splitWhere (isSlash true) (joinWith ['/'] (s :: rest)) = s :: rest :=
      splitWhere_joinWith hne (by decide) fun t ht => (hall t ht).slash
    rw [Path.toText, segmentsText_cons, pathAfterAuthority]
    rw [show isSlash true '/' = true by decide, if_pos rfl, resolve_web, hsplit,
      pushSegments_of_isSegment [] hall, List.append_nil, List.reverse_reverse]

/-- A proper path starts with a slash. -/
theorem exists_cons_toText {p : Path} (h : p.IsProper) : ∃ r, p.toText = '/' :: r := by
  cases p with
  | plain text => exact absurd h not_false
  | segments parts =>
    obtain ⟨s, rest, rfl⟩ := List.exists_cons_of_ne_nil h.1
    exact ⟨_, segmentsText_cons s rest⟩

theorem keepInPath_of_mem_toText {p : Path} (h : p.IsProper) (hc : c ∈ p.toText) :
    keepInPath c = true := by
  cases p with
  | plain text => exact absurd h not_false
  | segments parts =>
    obtain ⟨s, hs, hc⟩ := List.mem_flatMap.mp hc
    rcases List.mem_cons.mp hc with rfl | hc
    · decide
    · exact (h.2 s hs).keep c hc

end Metasearch.Url
