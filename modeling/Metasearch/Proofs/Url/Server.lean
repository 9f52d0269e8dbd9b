import Metasearch.Proofs.Url.Spelling

/-!
# The server of a URL

Scheme, user, host and port are settled by what stands in front of the first slash after the
authority. White space is dropped on either side of that slash and never the slash itself; fragment
and query are cut off behind it or are there in either case; so whatever follows the slash, the same
place is read in the same way.

## Main definitions

* `Url.server`: scheme and authority.

## Main results

* `map_server_withAuthority`: what the server is read from.
* `exists_parse_of_parse_slash`: what follows the slash has no influence on the server.
-/

namespace Metasearch.Url

open Metasearch.Text

variable {scheme s a t place tail : List Char} {q f : Option (List Char)} {u : Url}

/-- Where a URL leads to: scheme, user, host and port. -/
def server (u : Url) : List Char × Option Authority :=
  (u.scheme, u.authority)

/-- The server is read from the place, and from whether anything follows it. -/
theorem map_server_withAuthority :
    (withAuthority scheme s q f).map server =
      (Authority.parse scheme (s.takeWhile fun c => !isSlash (isSpecial scheme) c)
        (!(s.dropWhile fun c => !isSlash (isSpecial scheme) c).isEmpty || q.isSome ||
          f.isSome)).map fun p => (scheme, some p.1) := by
  rw [withAuthority]
  simp only [bind, Except.bind]
  split
  · rename_i e h
    rw [h]
    rfl
  · rename_i p h
    rw [h]
    rfl

/-- Where a place ends, something follows it: more path, a query or a fragment. -/
theorem isSome_or_of_isPlaceEnd {c : Char} {r : List Char} (h : isPlaceEnd c = true) :
    (!(cut '?' (cut '#' (c :: r)).1).1.isEmpty || (cut '?' (cut '#' (c :: r)).1).2.isSome ||
      (cut '#' (c :: r)).2.isSome) = true := by
  by_cases hf : c = '#'
  · subst hf
    simp [cut, afterFirst]
  · by_cases hq : c = '?'
    · subst hq
      simp [cut, afterFirst, beforeFirst]
    · simp [cut, beforeFirst, hf, hq]

/-- The server that is read when the place ends. -/
theorem map_server_parse {slashes : List Char} (hweb : isWeb (lower scheme) = true)
    (hslashes : ∀ c ∈ slashes, isSlash true c = true)
    (hplace : ∀ c ∈ place, isPlaceEnd c = false)
    (hhead : ∀ c ∈ (place ++ tail).head?, isSlash true c = false)
    (hne : tail ≠ []) (hend : ∀ c ∈ tail.head?, isPlaceEnd c = true)
    (hs : strip s = scheme ++ ':' :: (slashes ++ (place ++ tail))) :
    (parse s).map server =
      (Authority.parse (lower scheme) place true).map fun p => (lower scheme, some p.1) := by
  obtain ⟨c, r, rfl⟩ := List.exists_cons_of_ne_nil hne
  have hnot : ∀ c ∈ place, (!isSlash true c) = true := fun c hc => by
    rw [(of_not_isPlaceEnd (hplace c hc)).1]
    rfl
  have hmore := isSome_or_of_isPlaceEnd (r := r) (hend c rfl)
  have hbody : ((cut '?' (cut '#' (c :: r)).1).1.takeWhile fun c => !isSlash true c) = [] ∧
      ((cut '?' (cut '#' (c :: r)).1).1.dropWhile fun c => !isSlash true c) =
        (cut '?' (cut '#' (c :: r)).1).1 := by
    have hslash := isSlash_of_head?_cut hend
    cases hcut : (cut '?' (cut '#' (c :: r)).1).1 with
    | nil => exact ⟨rfl, rfl⟩
    | cons d r' =>
      rw [hcut] at hslash
      rw [List.takeWhile_cons, List.dropWhile_cons, hslash d rfl]
      exact ⟨rfl, rfl⟩
  rw [parse_of_strip hweb hslashes hplace hhead hs, map_server_withAuthority,
    isSpecial_of_isWeb hweb, List.takeWhile_append_of_pos hnot, List.dropWhile_append_of_pos hnot,
    hbody.1, hbody.2, List.append_nil, hmore]

/-- Without a place there is no URL. -/
theorem parse_eq_emptyHost {slashes : List Char} (hweb : isWeb scheme = true)
    (hslashes : ∀ c ∈ slashes, isSlash true c = true)
    (htail : ∀ c ∈ tail.head?, isPlaceEnd c = true ∧ isSlash true c = false)
    (hs : strip s = scheme ++ ':' :: (slashes ++ tail)) : parse s = .error .emptyHost := by
  have hlower : lower scheme = scheme := by rcases eq_of_isWeb hweb with rfl | rfl <;> rfl
  have hplace : ∀ c ∈ ([] : List Char), isPlaceEnd c = false := fun c hc =>
    absurd hc List.not_mem_nil
  have hbody : (cut '?' (cut '#' tail).1).1 = [] := by
    have hslash := isSlash_of_head?_cut fun c hc => (htail c hc).1
    cases hcut : (cut '?' (cut '#' tail).1).1 with
    | nil => rfl
    | cons c r =>
      have hc : c ∈ (cut '?' (cut '#' tail).1).1.head? := by rw [hcut]; rfl
      have hnot := (htail c (of_mem_head?_cut (of_mem_head?_cut hc).1).1).2
      exact absurd (hslash c hc) (by rw [hnot]; exact Bool.false_ne_true)
  rw [parse_of_strip (hlower.symm ▸ hweb) hslashes hplace (fun c hc => (htail c hc).2) hs, hbody,
    hlower, withAuthority, Authority.parse, isSpecial_of_isWeb hweb]
  rfl

/-- White space is dropped on either side of the first slash after the authority. -/
theorem strip_slash (hweb : isWeb scheme = true) (a t : List Char) :
    strip (scheme ++ ':' :: '/' :: '/' :: (a ++ '/' :: t)) =
      scheme ++ ':' :: '/' :: '/' :: ((a.filter fun c => !isSkipped c) ++
        '/' :: (dropTailWhile isMargin t).filter fun c => !isSkipped c) := by
  have hfront : (scheme ++ ':' :: '/' :: '/' :: (a ++ '/' :: t)).dropWhile isMargin =
      scheme ++ ':' :: '/' :: '/' :: a ++ '/' :: t := by
    rcases eq_of_isWeb hweb with rfl | rfl <;> simp [isMargin]
  have hscheme : (scheme.filter fun c => !isSkipped c) = scheme :=
    List.filter_eq_self.mpr fun c hc => by
      rw [(not_isMargin_of_isVisible (of_mem_scheme hweb hc).1).2.1]
      rfl
  have hmarks : isSkipped ':' = false ∧ isSkipped '/' = false := by decide
  rw [strip, trimWhere, hfront, dropTailWhile_append_cons (by decide), List.filter_append,
    List.filter_append, hscheme]
  simp [hmarks]

/-! ### The place -/

/-- A text after the two slashes, cut around the place in it. -/
structure IsCut (a slashes place rest : List Char) : Prop where
  /-- The parts are the whole text. -/
  eq : a = slashes ++ (place ++ rest)
  /-- More slashes may stand in front. -/
  isSlash_slashes : ∀ c ∈ slashes, isSlash true c = true
  /-- All of these slashes are passed over. -/
  head : ∀ c ∈ (place ++ rest).head?, isSlash true c = false
  /-- The place does not end before the rest. -/
  place_marks : ∀ c ∈ place, isPlaceEnd c = false
  /-- It ends there. -/
  rest_mark : ∀ c ∈ rest.head?, isPlaceEnd c = true

theorem exists_isCut (a : List Char) : ∃ slashes place rest, IsCut a slashes place rest := by
  have hhead : ∀ {p : Char → Bool} (l : List Char), ∀ c ∈ (l.dropWhile p).head?, p c = false := by
    intro p l c hc
    have hnot := List.head?_dropWhile_not p l
    rw [Option.mem_def.mp hc] at hnot
    exact hnot
  let body := a.dropWhile (isSlash true)
  refine ⟨a.takeWhile (isSlash true), body.takeWhile fun c => !isPlaceEnd c,
    body.dropWhile fun c => !isPlaceEnd c, ?_, fun c hc => List.mem_takeWhile_imp hc, ?_, ?_, ?_⟩
  · rw [List.takeWhile_append_dropWhile, List.takeWhile_append_dropWhile]
  · rw [List.takeWhile_append_dropWhile]
    exact hhead a
  · exact fun c hc => by simpa using List.mem_takeWhile_imp hc
  · exact fun c hc => by simpa using hhead body c hc

namespace IsCut

variable {slashes rest : List Char} (hcut : IsCut a slashes place rest)
include hcut

theorem isSlash_cons_slashes : ∀ c ∈ '/' :: '/' :: slashes, isSlash true c = true := by
  intro c hc
  rcases List.mem_cons.mp hc with rfl | hc
  · rfl
  rcases List.mem_cons.mp hc with rfl | hc
  · rfl
  · exact hcut.isSlash_slashes c hc

/-- The server is that of the place, whatever follows the slash. -/
theorem map_server_parse (hweb : isWeb scheme = true) (hne : place ≠ [])
    (hs : strip s = scheme ++ ':' :: '/' :: '/' :: (a ++ '/' :: t)) :
    (parse s).map server =
      (Authority.parse scheme place true).map fun p => (scheme, some p.1) := by
  have hlower : lower scheme = scheme := by rcases eq_of_isWeb hweb with rfl | rfl <;> rfl
  have hhead : ∀ c ∈ (place ++ (rest ++ '/' :: t)).head?, isSlash true c = false := by
    obtain ⟨c, r, rfl⟩ := List.exists_cons_of_ne_nil hne
    exact hcut.head
  have hend : ∀ c ∈ (rest ++ '/' :: t).head?, isPlaceEnd c = true := by
    have hmark := hcut.rest_mark
    cases rest with
    | nil => rintro c hc; obtain rfl := Option.some.inj hc; rfl
    | cons c r => exact hmark
  have hstrip : strip s =
      scheme ++ ':' :: ('/' :: '/' :: slashes ++ (place ++ (rest ++ '/' :: t))) := by
    rw [hs, hcut.eq]
    simp
  have hread := Url.map_server_parse (hlower.symm ▸ hweb : isWeb (lower scheme) = true)
    hcut.isSlash_cons_slashes hcut.place_marks hhead
    (List.append_ne_nil_of_right_ne_nil _ (List.cons_ne_nil _ _)) hend hstrip
  rwa [hlower] at hread

/-- There has to be a place in front of the slash. -/
theorem place_ne_nil (hweb : isWeb scheme = true)
    (hs : strip s = scheme ++ ':' :: '/' :: '/' :: (a ++ ['/'])) (h : parse s = .ok u) :
    place ≠ [] := by
  rintro rfl
  have hhead := hcut.head
  have hmark := hcut.rest_mark
  rw [hcut.eq] at hs
  have herror : parse s = .error .emptyHost := by
    cases rest with
    | nil =>
      have hslashes : ∀ c ∈ '/' :: '/' :: slashes ++ ['/'], isSlash true c = true := by
        intro c hc
        rcases List.mem_append.mp hc with hc | hc
        · exact hcut.isSlash_cons_slashes c hc
        · rw [List.mem_singleton.mp hc]
          rfl
      have htail : ∀ c ∈ ([] : List Char).head?, isPlaceEnd c = true ∧ isSlash true c = false :=
        fun c hc => absurd hc (Option.not_mem_none c)
      exact parse_eq_emptyHost hweb hslashes htail (by rw [hs]; simp)
    | cons c r =>
      have htail : ∀ d ∈ (c :: r ++ ['/']).head?, isPlaceEnd d = true ∧ isSlash true d = false := by
        rintro d hd
        obtain rfl := Option.some.inj hd
        exact ⟨hmark c rfl, hhead c rfl⟩
      exact parse_eq_emptyHost hweb hcut.isSlash_cons_slashes htail (by rw [hs]; simp)
  rw [herror] at h
  cases h

end IsCut

/-- **What follows the first slash after the authority has no influence on the server.** -/
theorem exists_parse_of_parse_slash (hweb : isWeb scheme = true)
    (h : parse (scheme ++ ':' :: '/' :: '/' :: (a ++ ['/'])) = .ok u) (t : List Char) :
    ∃ v, parse (scheme ++ ':' :: '/' :: '/' :: (a ++ '/' :: t)) = .ok v ∧ v.server = u.server := by
  obtain ⟨slashes, place, rest, hcut⟩ := exists_isCut (a.filter fun c => !isSkipped c)
  have hshort := strip_slash hweb a []
  have hne := hcut.place_ne_nil hweb hshort h
  have hsame := (hcut.map_server_parse hweb hne (strip_slash hweb a t)).trans
    (hcut.map_server_parse hweb hne hshort).symm
  rw [h] at hsame
  cases hparse : parse (scheme ++ ':' :: '/' :: '/' :: (a ++ '/' :: t)) with
  | error e =>
    rw [hparse] at hsame
    cases hsame
  | ok v =>
    rw [hparse] at hsame
    exact ⟨v, rfl, Except.ok.inj hsame⟩

end Metasearch.Url
