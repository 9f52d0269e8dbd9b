import Metasearch.Proofs.Url.Spelling

/-!
# Which URLs are one page

Two texts have the same canonical form if they denote the same page, and only then. What makes a
page is read off the URL before anything is rewritten: all of its components but the fragment, the
path without slashes at its end, and the pairs of the query that are no tracking parameters.

Nothing is lost on the way to the text, since the text of a canonical form is read as that form. So
equal texts are equal forms, and it is left to show for path and query that the rewriting of each
says neither more nor less than what makes a page. For the path this takes that no segment has a
slash of its own: the empty segments at the end are then the slashes at the end of the text.

Nothing is said of how a URL is written. Of the host this is worth saying: its letters may stand in
either case.

## Main definitions

* `Url.SamePage`: what two URLs of one page have in common.

## Main results

* `Path.stripped_eq_iff`, `cleanQuery_eq_iff`: path and query.
* `canonicalize_eq_iff`: canonical forms.
* `canonicalHref?_eq_iff`: canonical forms of texts.
-/

namespace Metasearch.Url

open Metasearch.Text Metasearch.Encoding

variable {parts parts' : List (List Char)} {p p' : Path} {q q' : Option (List Char)} {u v : Url}

/-! ### Paths -/

/-- The text of a path without the slashes at its end. -/
def Path.trimmed (p : Path) : List Char :=
  dropTailWhile (· == '/') p.toText

theorem segmentsText_concat (front : List (List Char)) (s : List Char) :
    segmentsText (front ++ [s]) = segmentsText front ++ '/' :: s := by
  rw [segmentsText, List.flatMap_append, List.flatMap_singleton]
  rfl

/-- No slash ends a path whose last segment is not empty. -/
theorem rdropWhile_segmentsText {front : List (List Char)} {s : List Char} (hs : IsSegment s)
    (hne : s ≠ []) : (segmentsText (front ++ [s])).rdropWhile (· == '/') =
      segmentsText (front ++ [s]) := by
  rw [List.rdropWhile_eq_self_iff]
  intro htext hlast
  have hmem : '/' ∈ s := by
    rw [← eq_of_beq hlast]
    simp only [segmentsText_concat, List.getLast_append_of_ne_nil _ (List.cons_ne_nil '/' s),
      List.getLast_cons hne]
    exact List.getLast_mem hne
  exact absurd (hs.slash '/' hmem) (by decide)

/-- The slashes at the end of a path are those of the empty segments there. -/
theorem Path.trimmed_segments (h : ∀ s ∈ parts, IsSegment s) :
    (Path.segments parts).trimmed = segmentsText (dropTailWhile List.isEmpty parts) := by
  rw [trimmed, toText, dropTailWhile_eq_rdropWhile, dropTailWhile_eq_rdropWhile]
  induction parts using List.reverseRecOn with
  | nil => rfl
  | append_singleton front s ih =>
    by_cases hnil : s = []
    · rw [segmentsText_concat, hnil, List.rdropWhile_concat_pos _ _ _ rfl,
        List.rdropWhile_concat_pos _ _ _ rfl]
      exact ih fun t ht => h t (List.mem_append_left _ ht)
    · have hkeep : (front ++ [s]).rdropWhile List.isEmpty = front ++ [s] :=
        List.rdropWhile_concat_neg _ _ _ fun hempty => hnil (List.isEmpty_iff.mp hempty)
      rw [hkeep, rdropWhile_segmentsText (h s (List.mem_append_right _ List.mem_cons_self)) hnil]

/-- Segments are told by their text. -/
theorem segmentsText_inj (h : ∀ s ∈ parts, IsSegment s) (h' : ∀ s ∈ parts', IsSegment s)
    (heq : segmentsText parts = segmentsText parts') : parts = parts' := by
  have hsplit : ∀ {parts}, (∀ s ∈ parts, IsSegment s) → parts ≠ [] →
      splitWhere (isSlash true) ((segmentsText parts).drop 1) = parts := by
    intro parts h hne
    obtain ⟨s, rest, rfl⟩ := List.exists_cons_of_ne_nil hne
    rw [segmentsText_cons]
    exact splitWhere_joinWith hne (by decide) fun t ht => (h t ht).slash
  have hnil : ∀ parts, segmentsText parts = [] ↔ parts = [] := by
    intro parts
    cases parts <;> simp [segmentsText]
  by_cases hne : parts = []
  · exact hne.trans ((hnil parts').mp (heq ▸ (hnil parts).mpr hne)).symm
  · have hne' : parts' ≠ [] := fun h => hne ((hnil parts).mp (heq ▸ (hnil parts').mpr h))
    rw [← hsplit h hne, heq, hsplit h' hne']

/-- Only the empty segments at the end are lost. -/
theorem stripSlashes_eq_iff : stripSlashes parts = stripSlashes parts' ↔
    dropTailWhile List.isEmpty parts = dropTailWhile List.isEmpty parts' := by
  have hdrop : ∀ parts, dropTailWhile List.isEmpty (stripSlashes parts) =
      dropTailWhile List.isEmpty parts := by
    intro parts
    rw [stripSlashes]
    split
    · rename_i hnil
      rw [hnil]
      rfl
    · simp only [dropTailWhile_eq_rdropWhile]
      exact List.rdropWhile_idempotent _ _
  constructor
  · intro h
    rw [← hdrop parts, h, hdrop parts']
  · intro h
    rw [stripSlashes, stripSlashes, h]

/-- **Two paths differ after stripping exactly if their texts do without slashes at the end.** -/
theorem Path.stripped_eq_iff (hp : p.IsProper) (hp' : p'.IsProper) :
    p.stripped = p'.stripped ↔ p.trimmed = p'.trimmed := by
  cases p with
  | plain text => exact absurd hp not_false
  | segments parts =>
    cases p' with
    | plain text => exact absurd hp' not_false
    | segments parts' =>
      have hkept : ∀ {parts : List (List Char)}, (∀ s ∈ parts, IsSegment s) →
          ∀ s ∈ dropTailWhile List.isEmpty parts, IsSegment s := by
        intro parts h s hs
        exact h s (dropTailWhile_subset List.isEmpty parts hs)
      rw [trimmed_segments hp.2, trimmed_segments hp'.2, Path.stripped, Path.stripped,
        Path.segments.injEq, stripSlashes_eq_iff]
      exact ⟨congrArg segmentsText, segmentsText_inj (hkept hp.2) (hkept hp'.2)⟩

/-! ### Queries -/

/-- The pairs of a query that are no tracking parameters. -/
def keptPairs (u : Url) : List (List Char × List Char) :=
  u.queryPairs.filter fun pair => !isTracking pair.1

theorem cleanQuery_eq_iff : cleanQuery q = cleanQuery q' ↔
    ((Form.decode (q.getD [])).filter fun pair => !isTracking pair.1) =
      (Form.decode (q'.getD [])).filter fun pair => !isTracking pair.1 := by
  constructor
  · intro h
    rw [← decode_cleanQuery, h, decode_cleanQuery]
  · intro h
    rw [cleanQuery, cleanQuery, h]

/-! ### Pages -/

/-- The port of a URL, unless its scheme stands for it. -/
def ownPort? (u : Url) : Option Nat :=
  (u.authority.bind Authority.port).filter fun n => defaultPort? u.scheme != some n

/-- What two URLs have in common if they are those of one page. -/
structure SamePage (u v : Url) : Prop where
  /-- The schemes are the same. -/
  scheme : u.scheme = v.scheme
  /-- The user names are the same. -/
  username : u.authority.map Authority.username = v.authority.map Authority.username
  /-- The passwords are the same. -/
  password : u.authority.map Authority.password = v.authority.map Authority.password
  /-- The hosts are the same. -/
  host : u.authority.map Authority.host = v.authority.map Authority.host
  /-- The ports are the same; that of the scheme counts as none. -/
  port : u.ownPort? = v.ownPort?
  /-- The paths are the same without the slashes at their ends. -/
  path : u.path.trimmed = v.path.trimmed
  /-- The queries have the same pairs in the same order, but for tracking parameters. -/
  query : u.keptPairs = v.keptPairs

theorem IsWebForm.ownPort?_eq {a : Authority} (h : u.IsWebForm) (ha : u.authority = some a) :
    u.ownPort? = a.port := by
  obtain ⟨b, hb, hproper⟩ := h.authority
  obtain rfl := Option.some.inj (ha.symm.trans hb)
  rw [ownPort?, ha, Option.bind_some]
  cases hport : a.port with
  | none => rfl
  | some n => exact Option.filter_some_pos (bne_iff_ne.mpr (hproper.port n hport).2)

/-- **Two URLs have one canonical form exactly if they are those of one page.** -/
theorem canonicalize_eq_iff (hu : u.IsWebForm) (hv : v.IsWebForm) :
    u.canonicalize = v.canonicalize ↔ SamePage u v := by
  obtain ⟨a, ha, -⟩ := hu.authority
  obtain ⟨b, hb, -⟩ := hv.authority
  constructor
  · intro h
    have hauthority : u.authority = v.authority := (congrArg Url.authority h :)
    have hab : a = b := Option.some.inj (ha.symm.trans (hauthority.trans hb))
    refine ⟨(congrArg Url.scheme h :), congrArg _ hauthority, congrArg _ hauthority,
      congrArg _ hauthority, ?_, ?_, ?_⟩
    · rw [hu.ownPort?_eq ha, hv.ownPort?_eq hb, hab]
    · exact (Path.stripped_eq_iff hu.path hv.path).mp (congrArg Url.path h :)
    · exact cleanQuery_eq_iff.mp (congrArg Url.query h :)
  · intro h
    have hpath := (Path.stripped_eq_iff hu.path hv.path).mpr h.path
    have hquery := cleanQuery_eq_iff.mpr h.query
    have hauthority : u.authority = v.authority := by
      have hport := h.port
      have husername := h.username
      have hpassword := h.password
      have hhost := h.host
      rw [hu.ownPort?_eq ha, hv.ownPort?_eq hb] at hport
      rw [ha, hb] at husername hpassword hhost ⊢
      obtain ⟨username, password, host, port⟩ := a
      obtain ⟨username', password', host', port'⟩ := b
      simp only [Option.map_some, Option.some.injEq] at husername hpassword hhost hport
      rw [husername, hpassword, hhost, hport]
    rw [canonicalize, canonicalize, h.scheme, hauthority, hpath, hquery]

theorem toText_inj (hu : u.IsWebForm) (hv : v.IsWebForm) (h : u.toText = v.toText) : u = v := by
  have hparse := parse_toText hu
  rw [h, parse_toText hv] at hparse
  exact (Except.ok.inj hparse).symm

theorem exists_of_isSome_canonicalHref? {raw : String} (h : (canonicalHref? raw).isSome = true) :
    ∃ u : Url, parseWeb? raw.toList = some u ∧ u.IsWebForm ∧
      canonicalHref? raw = some (String.ofList u.canonicalize.toText) := by
  rw [canonicalHref?, canonical?, Option.map_map] at h ⊢
  cases hu : parseWeb? raw.toList with
  | none =>
    rw [hu] at h
    exact absurd h Bool.false_ne_true
  | some u => exact ⟨u, rfl, (parseWeb?_eq_some hu).1, rfl⟩

theorem canonicalHref?_lowerHost (w : Spelling) :
    canonicalHref? (String.ofList w.lowerHost.text) = canonicalHref? (String.ofList w.text) := by
  rw [canonicalHref?, canonicalHref?, String.toList_ofList, String.toList_ofList,
    w.canonical?_lowerHost]

/-- **One page has one canonical form, and no other page has it.** The page of a text is what its
URL says, and that does not depend on the case of the host. -/
theorem canonicalHref?_eq_iff :
    (∀ a b : String, (canonicalHref? a).isSome = true → (canonicalHref? b).isSome = true →
      ∃ u v, parseWeb? a.toList = some u ∧ parseWeb? b.toList = some v ∧
        (canonicalHref? a = canonicalHref? b ↔ SamePage u v)) ∧
      ∀ w : Spelling,
        canonicalHref? (String.ofList w.lowerHost.text) =
          canonicalHref? (String.ofList w.text) := by
  refine ⟨fun a b ha hb => ?_, canonicalHref?_lowerHost⟩
  obtain ⟨u, hu, hform, hcanonical⟩ := exists_of_isSome_canonicalHref? ha
  obtain ⟨v, hv, hform', hcanonical'⟩ := exists_of_isSome_canonicalHref? hb
  refine ⟨u, v, hu, hv, ?_⟩
  rw [hcanonical, hcanonical', Option.some.injEq, String.ofList_inj,
    ← canonicalize_eq_iff hform hform']
  exact ⟨toText_inj hform.canonicalize hform'.canonicalize, congrArg toText⟩

/-- Two texts of one page, and a host in capital letters. -/
theorem canonicalHref?_eq_iff_spellings :
    (∃ u v : Url,
      parseWeb? "https://User@WWW.Example.org:443/a//?utm_source=x&k=1+2&gclid=3#top".toList =
        some u ∧
      parseWeb? "https://User@www.example.org/a?k=1%202".toList = some v ∧
      SamePage u v) ∧
    canonicalHref? "HTTP://me@example.org:8080/A" =
      canonicalHref? "HTTP://me@EXAMPLE.org:8080/A" := by
  have hkey : canonicalHref?
      "https://User@WWW.Example.org:443/a//?utm_source=x&k=1+2&gclid=3#top" =
        canonicalHref? "https://User@www.example.org/a?k=1%202" := by
    decide +kernel
  obtain ⟨u, v, hu, hv, hpage⟩ := canonicalHref?_eq_iff.1
    "https://User@WWW.Example.org:443/a//?utm_source=x&k=1+2&gclid=3#top"
    "https://User@www.example.org/a?k=1%202" (by decide +kernel) (by decide +kernel)
  refine ⟨⟨u, v, hu, hv, hpage.mp hkey⟩, ?_⟩
  exact canonicalHref?_eq_iff.2
    { scheme := "HTTP".toList, slashes := "//".toList, user := "me@".toList
      host := "EXAMPLE.org:8080".toList, tail := "/A".toList
      isWeb_scheme := by decide
      isSlash_slashes := by simp [isSlash]
      isUserText_user := Or.inr ⟨"me".toList, rfl⟩
      user_marks := by simp [isPlaceEnd, isSlash]
      host_marks := by simp [isPlaceEnd, isSlash]
      tail_mark := by
        rintro c ⟨⟩
        decide }

end Metasearch.Url
