import Metasearch.Proofs.Url.Authority
import Metasearch.Proofs.Url.Path

/-!
# Web URLs written and read

The text of a web URL is read as that URL. Reading cuts at the first `#`, then at the first `?`,
then at the first slash after the two: none of these marks stands in what is in front of it, so the
components come out as they were put in, and each of them is read back on its own.

## Main definitions

* `Url.IsWebForm`: what reading gives under a scheme of the web.

## Main results

* `isWebForm_of_parse`, `parse_toText`.
-/

namespace Metasearch.Url

open Metasearch.Text Metasearch.Number Metasearch.Encoding

variable {scheme s t text : List Char} {q f : Option (List Char)} {a : Authority} {c mark : Char}
  {u : Url}

/-! ### Schemes -/

theorem eq_of_isWeb (h : isWeb scheme = true) :
    scheme = "http".toList ∨ scheme = "https".toList := by
  rw [isWeb] at h
  split at h
  · rename_i heq
    exact Or.inl (by rw [← heq, String.toList_ofList])
  · rename_i heq
    exact Or.inr (by rw [← heq, String.toList_ofList])
  · exact absurd h Bool.false_ne_true

theorem isSpecial_of_isWeb (h : isWeb scheme = true) : isSpecial scheme = true := by
  rcases eq_of_isWeb h with rfl | rfl
  · rfl
  · rfl

theorem isFile_of_isWeb (h : isWeb scheme = true) : isFile scheme = false := by
  rcases eq_of_isWeb h with rfl | rfl
  · rfl
  · rfl

theorem splitScheme?_of_isWeb (h : isWeb scheme = true) (s : List Char) :
    splitScheme? (scheme ++ ':' :: s) = some (scheme, s) := by
  rcases eq_of_isWeb h with rfl | rfl
  · rfl
  · rfl

/-! ### Characters -/

/-- What stands for itself anywhere but in a fragment: no control character, no space. -/
def isVisible (c : Char) : Bool :=
  keepInPlain c && c != ' '

theorem isVisible_of_keepInFragment (h : keepInFragment c = true) : isVisible c = true := by
  simp only [keepInFragment, Bool.and_eq_true, Bool.not_eq_true', Bool.or_eq_false_iff] at h
  rw [isVisible, h.1, bne, h.2.1.1.1.1]
  rfl

theorem isVisible_of_keepInPath (h : keepInPath c = true) :
    isVisible c = true ∧ c ≠ '?' ∧ c ≠ '#' := by
  simp only [keepInPath, Bool.and_eq_true, Bool.not_eq_true', Bool.or_eq_false_iff] at h
  exact ⟨isVisible_of_keepInFragment h.1, ne_of_beq_false h.2.1.1.2, ne_of_beq_false h.2.1.1.1⟩

theorem isVisible_of_keepInQuery (h : keepInQuery true c = true) :
    isVisible c = true ∧ c ≠ '#' := by
  simp only [keepInQuery, Bool.and_eq_true, Bool.not_eq_true', Bool.or_eq_false_iff] at h
  refine ⟨?_, ne_of_beq_false h.1.2.1.1.2⟩
  rw [isVisible, h.1.1, bne, h.1.2.1.1.1.1]
  rfl

theorem not_isMargin_of_isVisible (h : isVisible c = true) :
    isMargin c = false ∧ isSkipped c = false ∧ isSpace c = false := by
  have hascii : c.toNat < 0x80 :=
    toNat_lt_of_keepInPlain (Bool.and_eq_true_iff.mp h).1
  have hall : (!isMargin c && !isSkipped c && !isSpace c) = true :=
    imp_of_ascii (q := fun c => !isMargin c && !isSkipped c && !isSpace c) (by decide) hascii h
  simpa [and_assoc] using hall

theorem of_mem_scheme (h : isWeb scheme = true) (hc : c ∈ scheme) :
    isVisible c = true ∧ c ≠ '?' ∧ c ≠ '#' := by
  have hall : (scheme.all fun c => isVisible c && c != '?' && c != '#') = true := by
    rcases eq_of_isWeb h with rfl | rfl
    · decide
    · decide
  simpa [and_assoc] using List.all_eq_true.mp hall c hc

/-- Nothing is taken away from a text of visible characters. -/
theorem strip_eq_self (hs : ∀ c ∈ s, isVisible c = true) : strip s = s := by
  rw [strip, trimWhere_eq_self fun c hc => (not_isMargin_of_isVisible (hs c hc)).1,
    List.filter_eq_self]
  intro c hc
  rw [(not_isMargin_of_isVisible (hs c hc)).2.1]
  rfl

theorem of_isPlaceChar (h : isPlaceChar c = true) :
    isVisible c = true ∧ isSlash true c = false ∧ c ≠ '?' ∧ c ≠ '#' := by
  have hascii : c.toNat < 0x80 := toNat_lt_of_keepInPlain (Bool.and_eq_true_iff.mp h).1
  have hall : (isVisible c && !isSlash true c && c != '?' && c != '#') = true :=
    imp_of_ascii (q := fun c => isVisible c && !isSlash true c && c != '?' && c != '#')
      (by decide) hascii h
  simpa [and_assoc] using hall

/-! ### Cutting -/

/-- A component is cut off at its mark, if there is none in front. -/
theorem cut_marked (hs : ∀ c ∈ s, c ≠ mark) (q : Option (List Char)) :
    cut mark (s ++ marked mark q) = (s, q) := by
  have hfree : ∀ c ∈ s, (c == mark) = false := fun c hc => beq_false_of_ne (hs c hc)
  rw [cut]
  cases q with
  | none =>
    rw [marked, List.append_nil, beforeFirst_eq_self hfree, afterFirst_eq_none hfree]
  | some q =>
    rw [marked, beforeFirst_append hfree (beq_self_eq_true mark),
      afterFirst_append hfree (beq_self_eq_true mark)]

/-- An escaped component is kept as it is. -/
theorem map_encode_eq_self {keep : Char → Bool} (hq : ∀ v ∈ q, ∀ c ∈ v, keep c = true) :
    q.map (Percent.encode keep) = q := by
  cases q with
  | none => rfl
  | some v => rw [Option.map_some, Percent.encode_eq_self (hq v rfl)]

/-! ### Web URLs -/

/-- A URL that reading gives under a scheme of the web. -/
structure IsWebForm (u : Url) : Prop where
  /-- The scheme is one of the web. -/
  scheme : isWeb u.scheme = true
  /-- There is an authority, and it is proper. -/
  authority : ∃ a, u.authority = some a ∧ a.IsProper u.scheme
  /-- The path is proper. -/
  path : u.path.IsProper
  /-- The query is escaped. -/
  query : ∀ q ∈ u.query, ∀ c ∈ q, keepInQuery true c = true
  /-- The fragment is escaped. -/
  fragment : ∀ f ∈ u.fragment, ∀ c ∈ f, keepInFragment c = true

theorem keepInQuery_of_hex (h : (hexValue? c).isSome) : keepInQuery true c = true :=
  Percent.of_isSome_hexValue? (by decide) h

theorem keepInFragment_of_hex (h : (hexValue? c).isSome) : keepInFragment c = true :=
  Percent.of_isSome_hexValue? (by decide) h

/-- What follows two slashes, read under a scheme of the web. -/
theorem isWebForm_of_withAuthority (hweb : isWeb scheme = true)
    (h : withAuthority scheme s q f = .ok u) : u.IsWebForm := by
  have hs := isSpecial_of_isWeb hweb
  rw [withAuthority] at h
  simp only [bind, Except.bind] at h
  split at h
  · cases h
  · rename_i parts hparse
    obtain ⟨a, left⟩ := parts
    obtain rfl := Except.ok.inj h
    refine ⟨hweb, ⟨a, rfl, Authority.isProper_of_parse hs hparse⟩, ?_, ?_, ?_⟩
    · rw [hs]
      exact isProper_pathAfterAuthority _
    · intro q' hq'
      rw [keepQuery, hs, Option.mem_def, Option.map_eq_some_iff] at hq'
      obtain ⟨v, -, rfl⟩ := hq'
      exact Percent.forall_mem_encode (by decide) (fun _ => keepInQuery_of_hex) v
    · intro f' hf'
      rw [keepFragment, Option.mem_def, Option.map_eq_some_iff] at hf'
      obtain ⟨v, -, rfl⟩ := hf'
      exact Percent.forall_mem_encode (by decide) (fun _ => keepInFragment_of_hex) v

theorem scheme_of_withAuthority (h : withAuthority scheme s q f = .ok u) : u.scheme = scheme := by
  rw [withAuthority] at h
  simp only [bind, Except.bind] at h
  split at h
  · cases h
  · obtain rfl := Except.ok.inj h
    rfl

theorem scheme_of_parseFile (h : parseFile none s q f = .ok u) : u.scheme = "file".toList := by
  rw [parseFile.eq_def] at h
  simp only [bind, Except.bind, pure, Except.pure] at h
  -- whatever branch is taken, the scheme is written into the URL
  repeat' split at h
  all_goals cases h
  all_goals rfl

theorem scheme_of_parseWithScheme (h : parseWithScheme none scheme s q f = .ok u) :
    u.scheme = scheme := by
  rw [parseWithScheme] at h
  split at h
  · rename_i hfile
    rw [scheme_of_parseFile h, ← eq_of_beq hfile, String.toList_ofList]
  · split at h
    · exact scheme_of_withAuthority h
    · split at h
      · exact scheme_of_withAuthority h
      · obtain rfl := Except.ok.inj h
        rfl
      · obtain rfl := Except.ok.inj h
        rfl

/-- **What reading gives under a scheme of the web is in form.** -/
theorem isWebForm_of_parse (h : parse text = .ok u) (hweb : isWeb u.scheme = true) :
    u.IsWebForm := by
  rw [parse, parseFrom] at h
  dsimp only at h
  split at h
  · rename_i scheme rest hscheme
    have hu := scheme_of_parseWithScheme h
    rw [hu] at hweb
    rw [parseWithScheme, if_neg (by rw [isFile_of_isWeb hweb]; exact Bool.false_ne_true),
      if_pos (isSpecial_of_isWeb hweb)] at h
    exact isWebForm_of_withAuthority hweb h
  · cases h

/-! ### Reading the text back -/

theorem hierarchyText_of_authority (hu : u.authority = some a) :
    u.hierarchyText = '/' :: '/' :: (a.toText ++ u.path.toText) := by
  rw [hierarchyText, hu]
  rfl

variable (h : u.IsWebForm)
include h

/-- Neither of the two marks stands in front of the query. -/
theorem of_mem_hierarchyText (hc : c ∈ u.scheme ++ ':' :: u.hierarchyText) :
    isVisible c = true ∧ c ≠ '?' ∧ c ≠ '#' := by
  obtain ⟨a, hu, ha⟩ := h.authority
  rw [hierarchyText_of_authority hu] at hc
  rcases List.mem_append.mp hc with hc | hc
  · exact of_mem_scheme h.scheme hc
  · simp only [List.mem_cons, List.mem_append] at hc
    rcases hc with rfl | rfl | rfl | hc | hc
    · decide
    · decide
    · decide
    · obtain ⟨hv, -, hne⟩ := of_isPlaceChar (isPlaceChar_of_mem_toText ha hc)
      exact ⟨hv, hne⟩
    · exact isVisible_of_keepInPath (keepInPath_of_mem_toText h.path hc)

theorem isVisible_of_mem_marked (hq : q = u.query) (hc : c ∈ marked '?' q) :
    isVisible c = true ∧ c ≠ '#' := by
  cases q with
  | none => exact absurd hc List.not_mem_nil
  | some q =>
    rcases List.mem_cons.mp hc with rfl | hc
    · decide
    · exact isVisible_of_keepInQuery (h.query q hq.symm c hc)

theorem isVisible_of_mem_toText (hc : c ∈ u.toText) : isVisible c = true := by
  rw [toText] at hc
  rcases List.mem_append.mp hc with hc | hc
  · rcases List.mem_append.mp hc with hc | hc
    · exact (of_mem_hierarchyText h hc).1
    · exact (isVisible_of_mem_marked h rfl hc).1
  · cases hf : u.fragment with
    | none =>
      rw [hf] at hc
      exact absurd hc List.not_mem_nil
    | some f =>
      rw [hf] at hc
      rcases List.mem_cons.mp hc with rfl | hc
      · decide
      · exact isVisible_of_keepInFragment (h.fragment f hf c hc)

/-- The text after the two slashes is cut at the first slash. -/
theorem withAuthority_toText (hu : u.authority = some a) (ha : a.IsProper u.scheme) :
    withAuthority u.scheme (a.toText ++ u.path.toText) u.query u.fragment = .ok u := by
  have hs := isSpecial_of_isWeb h.scheme
  have hplace : ∀ c ∈ a.toText, (!isSlash true c) = true := by
    intro c hc
    rw [(of_isPlaceChar (isPlaceChar_of_mem_toText ha hc)).2.1]
    rfl
  obtain ⟨r, hr⟩ := exists_cons_toText h.path
  have htake : (a.toText ++ u.path.toText).takeWhile (fun c => !isSlash true c) = a.toText := by
    rw [List.takeWhile_append_of_pos hplace, hr]
    exact List.append_nil _
  have hdrop : (a.toText ++ u.path.toText).dropWhile (fun c => !isSlash true c) =
      u.path.toText := by
    rw [List.dropWhile_append_of_pos hplace, hr]
    rfl
  have hquery : keepQuery u.scheme u.query = u.query := by
    rw [keepQuery, hs]
    exact map_encode_eq_self h.query
  have hfragment : keepFragment u.fragment = u.fragment := map_encode_eq_self h.fragment
  simp only [withAuthority, hs, htake, hdrop, Authority.parse_toText hs ha, bind, Except.bind,
    hquery, hfragment, List.nil_append, pathAfterAuthority_toText h.path]
  rw [← hu]
  rfl

/-- **The text of a web URL is read as that URL.** -/
theorem parse_toText : parse u.toText = .ok u := by
  obtain ⟨a, hu, ha⟩ := h.authority
  have hfront : ∀ c ∈ (u.scheme ++ ':' :: u.hierarchyText) ++ marked '?' u.query, c ≠ '#' := by
    intro c hc
    rcases List.mem_append.mp hc with hc | hc
    · exact (of_mem_hierarchyText h hc).2.2
    · exact (isVisible_of_mem_marked h rfl hc).2
  have hbody : ∀ c ∈ u.hierarchyText, c ≠ '?' := fun c hc =>
    (of_mem_hierarchyText h (List.mem_append_right _ (List.mem_cons_of_mem _ hc))).2.1
  have hcut : cut '#' u.toText =
      (u.scheme ++ ':' :: (u.hierarchyText ++ marked '?' u.query), u.fragment) := by
    rw [toText, cut_marked hfront, List.append_assoc]
    rfl
  have hscheme : splitScheme? u.toText =
      some (u.scheme, u.hierarchyText ++ marked '?' u.query ++ marked '#' u.fragment) := by
    rw [toText, List.append_assoc, List.append_assoc, List.cons_append,
      splitScheme?_of_isWeb h.scheme, ← List.append_assoc]
  -- the two slashes go, and the authority starts with none
  have hslashes : u.hierarchyText.dropWhile (isSlash true) = a.toText ++ u.path.toText := by
    obtain ⟨d, r, htext⟩ := List.exists_cons_of_ne_nil (Authority.toText_ne_nil ha)
    have hd : isSlash true d = false :=
      (of_isPlaceChar (isPlaceChar_of_mem_toText ha (htext ▸ List.mem_cons_self))).2.1
    rw [hierarchyText_of_authority hu, htext]
    simp only [List.cons_append, List.dropWhile_cons, hd]
    rfl
  rw [parse, parseFrom]
  simp only [strip_eq_self fun c hc => isVisible_of_mem_toText h hc, hcut, hscheme,
    splitScheme?_of_isWeb h.scheme, Option.elim_some, cut_marked hbody]
  rw [parseWithScheme, isFile_of_isWeb h.scheme, isSpecial_of_isWeb h.scheme]
  simp only [hslashes, Option.filter_none, Bool.false_eq_true, if_false, if_true]
  exact withAuthority_toText h hu ha

end Metasearch.Url
