import Metasearch.Proofs.Url.Query

/-!
# The marks of a query

When a URL is written out, its query stands again between the first question mark and the number
sign: nothing else that is read holds one of the two marks. So the pairs of a URL can be told from
its text.

## Main definitions

* `Url.IsMarked`: neither mark stands where it would be taken for that of the query.

## Main results

* `Url.IsMarked.queryPairs_eq_of_toText`: URLs with one text have the same pairs.
* `Url.isMarked_of_parse`, `Url.IsMarked.appendPairs`: URLs that are read, and appended to.
-/

namespace Metasearch.Url

open Metasearch.Text Metasearch.Number Metasearch.Encoding

variable {scheme s t : List Char} {q f : Option (List Char)} {a : Authority} {p : Path}
  {c : Char} {u v : Url} {pieces : List (List Char)}

/-! ### The marks in the text -/

theorem ne_of_isPlaceChar (h : isPlaceChar c = true) : c ≠ '?' ∧ c ≠ '#' :=
  (of_isPlaceChar h).2.2

theorem ne_of_keepInPath (h : keepInPath c = true) : c ≠ '?' ∧ c ≠ '#' :=
  (isVisible_of_keepInPath h).2

theorem ne_of_hex (h : (hexValue? c).isSome) : c ≠ '?' ∧ c ≠ '#' :=
  ne_of_isPlaceChar (isPlaceChar_of_isHostChar (isHostChar_of_hex (Or.inl h)).1)

/-- Neither mark of the query stands where it would be taken for one. -/
structure IsMarked (u : Url) : Prop where
  /-- None of them stands in front of the query. -/
  front : ∀ c ∈ u.scheme ++ ':' :: u.hierarchyText, c ≠ '?' ∧ c ≠ '#'
  /-- A number sign does not stand in the query. -/
  query : ∀ q ∈ u.query, '#' ∉ q

/-- **The query can be told from the text.** -/
theorem IsMarked.cut_toText (h : u.IsMarked) : (cut '?' (cut '#' u.toText).1).2 = u.query := by
  have hquery : ∀ c ∈ u.scheme ++ ':' :: u.hierarchyText ++ marked '?' u.query, c ≠ '#' := by
    intro c hc
    rcases List.mem_append.mp hc with hc | hc
    · exact (h.front c hc).2
    · cases hq : u.query with
      | none =>
        rw [hq] at hc
        exact absurd hc List.not_mem_nil
      | some q =>
        rw [hq] at hc
        rcases List.mem_cons.mp hc with rfl | hc
        · decide
        · rintro rfl
          exact h.query q hq hc
  rw [toText, cut_marked hquery, cut_marked fun c hc => (h.front c hc).1]

/-- URLs with one text have the same pairs. -/
theorem IsMarked.queryPairs_eq_of_toText (hu : u.IsMarked) (hv : v.IsMarked)
    (h : u.toText = v.toText) : u.queryPairs = v.queryPairs := by
  rw [queryPairs, queryPairs, ← hu.cut_toText, ← hv.cut_toText, h]

/-- What is written into a query holds no number sign. -/
theorem IsMarked.appendPairs (h : u.IsMarked) (pairs : List (List Char × List Char)) :
    (u.appendPairs pairs).IsMarked where
  front := h.front
  query q hq hmem := by
    rcases Form.mem_of_mem_append hq hmem with ⟨s, hs, hmem⟩ | hand | hmem
    · exact h.query s hs hmem
    · exact absurd hand (by decide)
    · have hkept : ∀ c, Form.isKept c = true → (c != '#') = true := fun c hc =>
        bne_iff_ne.mpr fun heq => absurd (heq ▸ hc) (by decide)
      have hmarks : (['+', '%', '=', '&'].all (· != '#')) = true := by decide
      have hall := Form.forall_mem_encode hkept (List.all_eq_true.mp hmarks)
        (fun c hc => bne_iff_ne.mpr (ne_of_hex hc).2) pairs
      exact absurd (hall '#' hmem) (by decide)

/-! ### Nothing read holds a mark -/

/-- Escaping writes no marks. -/
theorem ne_of_mem_encode {keep : Char → Bool} (hs : ∀ c ∈ s, c ≠ '?' ∧ c ≠ '#')
    (hc : c ∈ Percent.encode keep s) : c ≠ '?' ∧ c ≠ '#' := by
  rcases Percent.mem_encode hc with ⟨hmem, -⟩ | rfl | hx
  · exact hs c hmem
  · decide
  · exact ne_of_hex hx

theorem ne_of_mem_host {h : Host} (hs : ∀ c ∈ s, c ≠ '?' ∧ c ≠ '#')
    (hh : (if isSpecial scheme then Host.parse s else Host.parsePlain s) = .ok h)
    (hc : c ∈ h.toText) : c ≠ '?' ∧ c ≠ '#' := by
  have hproper : h.IsProper → c ≠ '?' ∧ c ≠ '#' := fun hp =>
    ne_of_isPlaceChar (isPlaceChar_of_isHostChar (isHostChar_of_mem_toText hp hc))
  split at hh
  · exact hproper (Host.isProper_of_parse hh)
  · rw [Host.parsePlain] at hh
    split at hh
    · exact hproper (Host.isProper_of_parseBracketed hh)
    · split at hh
      · cases hh
      · obtain rfl := Except.ok.inj hh
        exact ne_of_mem_encode hs hc

theorem ne_of_mem_authority {more : Bool} {left : List Char} (hs : ∀ c ∈ s, c ≠ '?' ∧ c ≠ '#')
    (h : Authority.parse scheme s more = .ok (a, left)) (hc : c ∈ a.toText) :
    c ≠ '?' ∧ c ≠ '#' := by
  obtain ⟨husername, hpassword, host, rest, hsplit, hhost, -⟩ := Authority.exists_of_parse h
  rw [Authority.toText] at hc
  rcases List.mem_append.mp hc with hc | hc
  · rcases List.mem_append.mp hc with hc | hc
    · exact ne_of_isPlaceChar (isPlaceChar_of_mem_userText husername hpassword hc)
    · refine ne_of_mem_host (fun d hd => hs d (snd_splitUser_subset s ?_)) hhost hc
      have hwhole := append_splitHost false ((splitUser s).getD ([], s)).2
      rw [hsplit] at hwhole
      exact hwhole ▸ List.mem_append_left rest hd
  · exact ne_of_isPlaceChar (isPlaceChar_of_mem_portText hc)

theorem keepInPath_of_isAlpha (h : c.isAlpha = true) : keepInPath c = true := by
  have hascii : c.toNat < 0x80 := toNat_lt_of_isAlphanum (by rw [Char.isAlphanum, h]; rfl)
  exact imp_of_ascii (by decide) hascii h

/-- A segment holds what stands for itself in a path, also one that names a drive. -/
theorem keepInPath_of_mem_pushSegments {file : Bool} (ht : t ∈ pushSegments file [] pieces)
    (hc : c ∈ t) : keepInPath c = true := by
  rcases mem_pushSegments ht with ht | rfl | ⟨-, d, hd, rfl⟩ | ⟨s, -, -, -, rfl⟩
  · exact absurd ht List.not_mem_nil
  · exact absurd hc List.not_mem_nil
  · rcases List.mem_cons.mp hc with rfl | hc
    · exact keepInPath_of_isAlpha hd
    · rw [List.mem_singleton.mp hc]
      decide
  · exact Percent.forall_mem_encode keepInPath_percent (fun _ => keepInPath_of_hex) s c hc

theorem keepInPath_slash : keepInPath '/' = true := by decide

theorem keepInPath_of_mem_rooted {special file : Bool}
    (hc : c ∈ (rooted special file s).toText) : keepInPath c = true := by
  have hpushed : ∀ t ∈ (pushSegments file [] (splitWhere (isSlash special) s)).reverse, ∀ c ∈ t,
      keepInPath c = true := fun t ht c hc =>
    keepInPath_of_mem_pushSegments (List.mem_reverse.mp ht) hc
  obtain ⟨t, ht, hc⟩ := List.mem_flatMap.mp hc
  rcases List.mem_cons.mp hc with rfl | hc
  · exact keepInPath_slash
  · rw [resolve] at ht
    split at ht
    · split at ht
      · rw [List.mem_singleton.mp ht] at hc
        exact absurd hc List.not_mem_nil
      · exact hpushed t ((List.dropWhile_suffix _).subset ht) c hc
    · exact hpushed t ht c hc

theorem keepInPath_of_mem_pathAfterAuthority {special : Bool}
    (hc : c ∈ (pathAfterAuthority special s).toText) : keepInPath c = true := by
  cases s with
  | nil =>
    cases special with
    | true => rw [List.mem_singleton.mp hc, keepInPath_slash]
    | false => exact absurd hc List.not_mem_nil
  | cons d r => exact keepInPath_of_mem_rooted hc

theorem ne_of_mem_guard (hc : c ∈ p.guard) : c ≠ '?' ∧ c ≠ '#' := by
  rw [Path.guard.eq_def] at hc
  split at hc
  · rcases List.mem_cons.mp hc with rfl | hc
    · decide
    · rw [List.mem_singleton.mp hc]
      decide
  · exact absurd hc List.not_mem_nil

/-- The text in front of the query, if there is an authority. -/
theorem ne_of_mem_hierarchyText (hu : u.authority = some a)
    (ha : ∀ c ∈ a.toText, c ≠ '?' ∧ c ≠ '#') (hp : ∀ c ∈ u.path.toText, keepInPath c = true)
    (hc : c ∈ u.hierarchyText) : c ≠ '?' ∧ c ≠ '#' := by
  rw [hierarchyText_of_authority hu] at hc
  simp only [List.mem_cons, List.mem_append] at hc
  rcases hc with rfl | rfl | hc | hc
  · decide
  · decide
  · exact ha c hc
  · exact ne_of_keepInPath (hp c hc)

theorem ne_of_withAuthority (hs : ∀ c ∈ s, c ≠ '?' ∧ c ≠ '#')
    (h : withAuthority scheme s q f = .ok u) (hc : c ∈ u.hierarchyText) : c ≠ '?' ∧ c ≠ '#' := by
  rw [withAuthority] at h
  simp only [bind, Except.bind] at h
  split at h
  · cases h
  · rename_i parts hparse
    obtain rfl := Except.ok.inj h
    exact ne_of_mem_hierarchyText rfl
      (fun c hc => ne_of_mem_authority
        (fun c hc => hs c ((List.takeWhile_prefix _).subset hc)) hparse hc)
      (fun c hc => keepInPath_of_mem_pathAfterAuthority hc) hc

/-- A local file has a host at most, and a path from the root. -/
theorem exists_of_parseFile (h : parseFile none s q f = .ok u) : ∃ host r,
    u.authority = some { noHost with host } ∧ u.path = rooted true true r ∧
      (host = .domain [] ∨ ∃ place, parseFileHost place = .ok host) := by
  rw [parseFile.eq_def] at h
  simp only [bind, Except.bind, pure, Except.pure] at h
  repeat' split at h
  all_goals cases h
  all_goals refine ⟨_, _, rfl, rfl, ?_⟩
  -- two branches read a host, in the others there is none
  all_goals first
    | exact Or.inl rfl
    | exact Or.inr ⟨_, by assumption⟩

theorem ne_of_parseFile (h : parseFile none s q f = .ok u) (hc : c ∈ u.hierarchyText) :
    c ≠ '?' ∧ c ≠ '#' := by
  obtain ⟨host, r, hu, hpath, hhost⟩ := exists_of_parseFile h
  have hempty : ∀ {c}, c ∈ (Host.domain []).toText → c ≠ '?' ∧ c ≠ '#' := fun hc =>
    absurd hc List.not_mem_nil
  refine ne_of_mem_hierarchyText hu (fun c hc => ?_)
    (fun c hc => keepInPath_of_mem_rooted (hpath ▸ hc)) hc
  have hc : c ∈ host.toText := by simpa [Authority.toText, Authority.userText, portText, noHost]
    using hc
  rcases hhost with rfl | ⟨place, hplace⟩
  · exact hempty hc
  · rw [parseFileHost] at hplace
    simp only [bind, Except.bind, pure, Except.pure] at hplace
    split at hplace
    · obtain rfl := Except.ok.inj hplace
      exact hempty hc
    · split at hplace
      · cases hplace
      · rename_i host' hparse
        split at hplace
        · obtain rfl := Except.ok.inj hplace
          exact hempty hc
        · obtain rfl := Except.ok.inj hplace
          exact ne_of_isPlaceChar (isPlaceChar_of_isHostChar
            (isHostChar_of_mem_toText (Host.isProper_of_parse hparse) hc))

theorem ne_of_parseWithScheme (hs : ∀ c ∈ s, c ≠ '?' ∧ c ≠ '#')
    (h : parseWithScheme none scheme s q f = .ok u) (hc : c ∈ u.hierarchyText) :
    c ≠ '?' ∧ c ≠ '#' := by
  rw [parseWithScheme] at h
  split at h
  · exact ne_of_parseFile h hc
  · split at h
    · exact ne_of_withAuthority (fun c hc => hs c ((List.dropWhile_suffix _).subset hc)) h hc
    · split at h
      · exact ne_of_withAuthority
          (fun c hc => hs c (List.mem_cons_of_mem _ (List.mem_cons_of_mem _ hc))) h hc
      · obtain rfl := Except.ok.inj h
        rcases List.mem_append.mp hc with hc | hc
        · exact ne_of_mem_guard hc
        · exact ne_of_keepInPath (keepInPath_of_mem_rooted hc)
      · obtain rfl := Except.ok.inj h
        rcases List.mem_append.mp hc with hc | hc
        · exact ne_of_mem_guard hc
        · exact ne_of_mem_encode hs hc

/-- **Nothing that is read holds a mark of the query.** -/
theorem isMarked_of_parse (h : parse s = .ok u) : u.IsMarked where
  front := by
    obtain ⟨front, body, hfront, hbody, hparse⟩ := exists_of_parse h
    intro c hc
    rcases List.mem_append.mp hc with hc | hc
    · rw [scheme_of_parseWithScheme hparse] at hc
      obtain ⟨d, hd, rfl⟩ := List.mem_map.mp hc
      have hlower : isSchemeChar d.toLower = isSchemeChar d := apply_toLower (by decide) d
      exact ne_of_isSchemeChar (hlower.trans (hfront d hd))
    · rcases List.mem_cons.mp hc with rfl | hc
      · decide
      · exact ne_of_parseWithScheme hbody hparse hc
  query := by
    intro q hq hmem
    rw [query_of_parse h, keepQuery, Option.mem_def, Option.map_eq_some_iff] at hq
    obtain ⟨raw, -, rfl⟩ := hq
    rcases Percent.mem_encode hmem with ⟨-, hkeep⟩ | hpercent | hx
    · simp [keepInQuery] at hkeep
    · exact absurd hpercent (by decide)
    · exact absurd rfl (ne_of_hex hx).2

end Metasearch.Url
