import Metasearch.Proofs.Url.Spelling

/-!
# One segment of a path within a URL

A text is put into a gap in the path of a web URL, between two slashes or at the end of the path. No
mark in it may end a segment. Then the URL is cut into the same parts whatever fills the gap, and
the path into the same pieces but one; that one is kept as a segment unless it is made of dots.

## Main definitions

* `IsFilling`, `IsDots`: what is read as one piece of a path, and what stands for no piece.
* `Gap`: the text of a web URL around one whole segment of its path.
* `Gap.IsAround`: texts that are the two sides of a gap when white space is dropped.

## Main results

* `Gap.parse_around`: what is read around a filling.
* `Gap.pathOf_eq`: the segments, if none is made of dots.
-/

namespace Metasearch.Url

open Metasearch.Text Metasearch.Number Metasearch.Encoding

variable {scheme s t m : List Char} {pieces done : List (List Char)} {a : Authority}
  {more : Bool} {c : Char}

/-! ### Segments and places -/

/-- Stands for the parent, or for its own place. -/
def IsDots (s : List Char) : Prop :=
  isDoubleDot s = true ∨ isSingleDot s = true

instance : DecidablePred IsDots :=
  fun s => inferInstanceAs (Decidable (isDoubleDot s = true ∨ isSingleDot s = true))

theorem pushSegment_of_not_isDots (h : ¬IsDots s) (last : Bool) (done : List (List Char)) :
    pushSegment false last done s = Percent.encode keepInPath s :: done := by
  rw [IsDots, not_or, Bool.not_eq_true, Bool.not_eq_true] at h
  rw [pushSegment, h.1, h.2]
  rfl

/-- Pieces that are not made of dots are kept, a segment for each. -/
theorem pushSegments_of_not_isDots (h : ∀ s ∈ pieces, ¬IsDots s) :
    pushSegments false done pieces =
      (pieces.map (Percent.encode keepInPath)).reverse ++ done := by
  induction pieces generalizing done with
  | nil => rfl
  | cons s rest ih =>
    have hs := h s List.mem_cons_self
    cases rest with
    | nil => exact pushSegment_of_not_isDots hs true done
    | cons t rest =>
      rw [pushSegments, pushSegment_of_not_isDots hs false done,
        ih fun u hu => h u (List.mem_cons_of_mem s hu)]
      simp

theorem left_eq_nil_of_parsePort {port : Option Nat} {left : List Char} (hslash : '\\' ∉ s)
    (h : parsePort scheme s = .ok (port, left)) : left = [] := by
  have hrest : '\\' ∉ (spanDigits s).2 := fun h => hslash ((List.dropWhile_suffix _).subset h)
  rw [parsePort] at h
  dsimp only at h
  split_ifs at h with hrange hmark
  all_goals obtain ⟨-, rfl⟩ := Prod.mk.inj (Except.ok.inj h)
  all_goals
    cases hcons : (spanDigits s).2 with
    | nil => rfl
    | cons c r =>
      rw [hcons] at hmark hrest
      simp only [List.head?_cons, Option.any_some, bne_iff_ne, ne_eq, not_not] at hmark
      exact absurd (hmark ▸ List.mem_cons_self) hrest

/-- Nothing is left of a place that holds no slash. -/
theorem Authority.left_eq_nil {left : List Char} (hslash : '\\' ∉ s)
    (h : Authority.parse scheme s more = .ok (a, left)) : left = [] := by
  obtain ⟨-, -, host, rest, hsplit, -, hrest⟩ := Authority.exists_of_parse h
  rcases hrest with ⟨-, -, hleft⟩ | ⟨c, portText, hcons, hport⟩
  · exact hleft
  · refine left_eq_nil_of_parsePort (fun hmem => hslash (snd_splitUser_subset s ?_)) hport
    have hsuffix := splitHost_suffix false ((splitUser s).getD ([], s)).2
    rw [hsplit, hcons] at hsuffix
    exact hsuffix.subset (List.mem_cons_of_mem c hmem)

/-! ### Gaps -/

/-- A text that is read as one piece of a path. -/
structure IsFilling (m : List Char) : Prop where
  /-- It is not empty. -/
  ne_nil : m ≠ []
  /-- None of its characters is white space or ends a segment. -/
  marks : ∀ c ∈ m, isVisible c = true ∧ isPlaceEnd c = false

/-- The text of a web URL around one whole segment of its path. -/
structure Gap where
  /-- What stands before the first colon. -/
  scheme : List Char
  /-- The slashes after the colon, as many as there are. -/
  slashes : List Char
  /-- User, host and port. -/
  place : List Char
  /-- The path up to the gap, from its first slash to its last. -/
  way : List Char
  /-- The segments in front of the gap. -/
  before : List (List Char)
  /-- What follows the gap. -/
  rest : List Char
  /-- The segments behind the gap. -/
  after : List (List Char)
  /-- The scheme is one of the web, in either case. -/
  isWeb_scheme : isWeb (lower scheme) = true
  /-- All of them are slashes, in either direction. -/
  isSlash_slashes : ∀ c ∈ slashes, isSlash true c = true
  /-- There is a place. -/
  place_ne_nil : place ≠ []
  /-- It does not end before the path. -/
  place_marks : ∀ c ∈ place, isPlaceEnd c = false
  /-- The path does not end before the gap. -/
  way_marks : ∀ c ∈ way, c ≠ '?' ∧ c ≠ '#'
  /-- The path starts with a slash, and one stands right in front of the gap. -/
  split_way : splitWhere (isSlash true) way = [] :: before ++ [[]]
  /-- A slash stands right behind the gap, unless the path ends there. -/
  split_rest : splitWhere (isSlash true) (cut '?' (cut '#' rest).1).1 = [] :: after

/-- A text that is cut into an empty piece and others starts with a mark. -/
theorem exists_cons_of_splitWhere {p : Char → Bool} (h : splitWhere p s = [] :: pieces)
    (hne : pieces ≠ []) : ∃ c r, s = c :: r ∧ p c = true ∧ splitWhere p r = pieces := by
  cases s with
  | nil =>
    rw [splitWhere] at h
    exact absurd (List.cons.inj h).2.symm hne
  | cons c r =>
    obtain ⟨piece, more, hr⟩ := List.exists_cons_of_ne_nil (splitWhere_ne_nil p r)
    rw [splitWhere, hr] at h
    split_ifs at h with hc
    · exact ⟨c, r, rfl, hc, hr.trans (List.cons.inj h).2⟩
    · exact absurd (List.cons.inj h).1 (List.cons_ne_nil c piece)

namespace Gap

variable {g : Gap}

/-- The text in front of the gap. -/
def front (g : Gap) : List Char :=
  g.scheme ++ ':' :: (g.slashes ++ (g.place ++ g.way))

/-- The path when the gap is filled. -/
def pathOf (g : Gap) (m : List Char) : Path :=
  pathAfterAuthority true (g.way ++ (m ++ (cut '?' (cut '#' g.rest).1).1))

/-- The URL when the gap is filled. -/
def urlOf (g : Gap) (a : Authority) (m : List Char) : Url :=
  { scheme := lower g.scheme, authority := some a, path := g.pathOf m
    query := keepQuery (lower g.scheme) (cut '?' (cut '#' g.rest).1).2
    fragment := keepFragment (cut '#' g.rest).2 }

/-- None of the segments around the gap is made of dots. -/
def IsPlain (g : Gap) : Prop :=
  ∀ s ∈ g.before ++ g.after, ¬IsDots s

theorem exists_way (g : Gap) : ∃ c r, g.way = c :: r ∧ isSlash true c = true := by
  obtain ⟨c, r, hway, hc, -⟩ := exists_cons_of_splitWhere g.split_way (by simp)
  exact ⟨c, r, hway, hc⟩

/-- **What fills the gap is one segment of the path**, if it is not made of dots. -/
theorem pathOf_eq (hg : g.IsPlain) (hm : IsFilling m) (hdots : ¬IsDots m) :
    g.pathOf m = .segments (g.before.map (Percent.encode keepInPath) ++
      Percent.encode keepInPath m :: g.after.map (Percent.encode keepInPath)) := by
  have hsplit : splitWhere (isSlash true) (g.way ++ (m ++ (cut '?' (cut '#' g.rest).1).1)) =
      [] :: (g.before ++ m :: g.after) := by
    have hpiece : splitWhere (isSlash true) m = [] ++ [m] :=
      splitWhere_eq_singleton fun c hc => (of_not_isPlaceEnd (hm.marks c hc).2).1
    have hright := splitWhere_append_of hpiece g.split_rest
    rw [splitWhere_append_of g.split_way hright]
    simp
  have hall : ∀ s ∈ g.before ++ m :: g.after, ¬IsDots s := by
    intro s hs
    rcases List.mem_append.mp hs with hs | hs
    · exact hg s (List.mem_append_left _ hs)
    · rcases List.mem_cons.mp hs with rfl | hs
      · exact hdots
      · exact hg s (List.mem_append_right _ hs)
  obtain ⟨c, r, hpath, hc, hr⟩ := exists_cons_of_splitWhere hsplit (by simp)
  rw [pathOf, hpath, pathAfterAuthority, if_pos hc, resolve_web, hr,
    pushSegments_of_not_isDots hall]
  simp

/-- **What is read around a filling.** -/
theorem parse_eq (hm : IsFilling m) (hs : strip s = g.front ++ (m ++ g.rest)) :
    parse s = (Authority.parse (lower g.scheme) g.place true).map fun p => g.urlOf p.1 m := by
  obtain ⟨c, r, hway, hc⟩ := g.exists_way
  have hspecial := isSpecial_of_isWeb g.isWeb_scheme
  have hhead : ∀ c ∈ (g.place ++ (g.way ++ (m ++ g.rest))).head?, isSlash true c = false := by
    obtain ⟨d, r, hplace⟩ := List.exists_cons_of_ne_nil g.place_ne_nil
    rw [hplace]
    rintro c hc
    obtain rfl := Option.some.inj hc
    exact (of_not_isPlaceEnd (g.place_marks d (hplace ▸ List.mem_cons_self))).1
  have hstrip : strip s =
      g.scheme ++ ':' :: (g.slashes ++ (g.place ++ (g.way ++ (m ++ g.rest)))) := by
    rw [hs, front]
    simp
  have hmarks : ∀ c ∈ g.way ++ m, c ≠ '?' ∧ c ≠ '#' := by
    intro c hc
    rcases List.mem_append.mp hc with hc | hc
    · exact g.way_marks c hc
    · exact (of_not_isPlaceEnd (hm.marks c hc).2).2
  have hfragment : cut '#' (g.way ++ (m ++ g.rest)) =
      (g.way ++ (m ++ (cut '#' g.rest).1), (cut '#' g.rest).2) := by
    rw [← List.append_assoc, cut_append fun c hc => (hmarks c hc).2, List.append_assoc]
  have hquery : cut '?' (g.way ++ (m ++ (cut '#' g.rest).1)) =
      (g.way ++ (m ++ (cut '?' (cut '#' g.rest).1).1), (cut '?' (cut '#' g.rest).1).2) := by
    rw [← List.append_assoc, cut_append fun c hc => (hmarks c hc).1, List.append_assoc]
  have hnot : ∀ c ∈ g.place, (!isSlash true c) = true := fun c hc => by
    rw [(of_not_isPlaceEnd (g.place_marks c hc)).1]
    rfl
  have htake : ∀ t, (g.place ++ (g.way ++ t)).takeWhile (fun c => !isSlash true c) = g.place := by
    intro t
    rw [List.takeWhile_append_of_pos hnot, hway, List.cons_append, List.takeWhile_cons, hc]
    exact List.append_nil g.place
  have hdrop : ∀ t,
      (g.place ++ (g.way ++ t)).dropWhile (fun c => !isSlash true c) = g.way ++ t := by
    intro t
    rw [List.dropWhile_append_of_pos hnot, hway, List.cons_append, List.dropWhile_cons, hc]
    rfl
  have hmore : ∀ t, (g.way ++ t).isEmpty = false := fun t => by rw [hway]; rfl
  have hslash : '\\' ∉ g.place := fun h => absurd (g.place_marks _ h) (by decide)
  rw [parse_of_strip g.isWeb_scheme g.isSlash_slashes g.place_marks hhead hstrip, hfragment,
    withAuthority, hspecial]
  simp only [hquery, htake, hdrop, hmore, Bool.not_false, Bool.true_or, bind, Except.bind]
  cases hparse : Authority.parse (lower g.scheme) g.place true with
  | error e => rfl
  | ok parts =>
    obtain ⟨a, left⟩ := parts
    obtain rfl := Authority.left_eq_nil hslash hparse
    rfl

/-! ### White space -/

/-- Texts that are the two sides of the gap when the white space that does not count is dropped. -/
structure IsAround (g : Gap) (s t : List Char) : Prop where
  /-- At the start of a URL nothing is dropped but margins, and what is skipped anywhere. -/
  front : ((s.dropWhile isMargin).filter fun c => !isSkipped c) = g.front
  /-- Nor is at its end. -/
  rest : ((dropTailWhile isMargin t).filter fun c => !isSkipped c) = g.rest

/-- White space is dropped on either side of what is visible. -/
theorem strip_append_append (hne : m ≠ []) (hm : ∀ c ∈ m, isVisible c = true) (s t : List Char) :
    strip (s ++ (m ++ t)) = ((s.dropWhile isMargin).filter fun c => !isSkipped c) ++
      (m ++ (dropTailWhile isMargin t).filter fun c => !isSkipped c) := by
  have hkept : (m.filter fun c => !isSkipped c) = m := List.filter_eq_self.mpr fun c hc => by
    rw [(not_isMargin_of_isVisible (hm c hc)).2.1]
    rfl
  obtain ⟨c, r, rfl⟩ := List.exists_cons_of_ne_nil hne
  have hc := (not_isMargin_of_isVisible (hm c List.mem_cons_self)).1
  have hfront :
      (s ++ (c :: r ++ t)).dropWhile isMargin = s.dropWhile isMargin ++ (c :: r ++ t) := by
    have hstay : (c :: r ++ t).dropWhile isMargin = c :: r ++ t :=
      List.dropWhile_cons_of_neg (by rw [hc]; exact Bool.false_ne_true)
    rw [List.dropWhile_append, hstay]
    split_ifs with hempty
    · rw [List.isEmpty_iff.mp hempty, List.nil_append]
    · rfl
  have hback : dropTailWhile isMargin (s.dropWhile isMargin ++ (c :: r ++ t)) =
      s.dropWhile isMargin ++ (c :: r ++ dropTailWhile isMargin t) := by
    rw [List.cons_append, dropTailWhile_append_cons hc, dropTailWhile_append fun d hd =>
      (not_isMargin_of_isVisible (hm d (List.mem_cons_of_mem c hd))).1]
    rfl
  rw [strip, trimWhere, hfront, hback, List.filter_append, List.filter_append, hkept]

/-- **What is read around a filling, with the white space.** -/
theorem parse_around (hm : IsFilling m) (h : g.IsAround s t) :
    parse (s ++ (m ++ t)) =
      (Authority.parse (lower g.scheme) g.place true).map fun p => g.urlOf p.1 m := by
  refine parse_eq hm ?_
  rw [strip_append_append hm.ne_nil fun c hc => (hm.marks c hc).1, h.front, h.rest]

end Gap
end Metasearch.Url
