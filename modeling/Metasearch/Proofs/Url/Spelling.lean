import Metasearch.Proofs.Url.Canonical
import Metasearch.Proofs.Url.Case

/-!
# The case of a host in a URL

The letters of a host may be written in either case, and the URL is the same. What stands around the
host may not be changed in this way, so a text is taken together with its cut into scheme, slashes,
user, host and tail. All that reading does before it comes to the host leaves such a cut behind:
white space is dropped from the parts, fragment and query are cut off the tail, and the marks that
the parts are told by stay where they are.

## Main definitions

* `Url.Spelling`: the text of a web URL, cut around its host.

## Main results

* `Spelling.exists_strip`: white space is dropped from the parts.
* `parse_of_strip`, `Spelling.parse_eq`: what is read of the parts.
* `Authority.parse_lower`, `Spelling.canonical?_lowerHost`: a host in either case.
-/

namespace Metasearch.Url

open Metasearch.Text Metasearch.Number Metasearch.Encoding

variable {scheme s t place body : List Char} {q f : Option (List Char)} {c mark : Char}
  {p : Char → Bool}

/-! ### Ports and places -/

theorem spanDigits_lower (s : List Char) :
    spanDigits (lower s) = ((spanDigits s).1, lower (spanDigits s).2) := by
  have hdigit : Char.isDigit ∘ Char.toLower = Char.isDigit := funext (apply_toLower (by decide))
  have hfront : lower (s.takeWhile Char.isDigit) = s.takeWhile Char.isDigit :=
    lower_eq_self List.all_takeWhile
  rw [spanDigits, spanDigits, lower, List.takeWhile_map, List.dropWhile_map, hdigit]
  exact congrArg (·, _) hfront

theorem parsePort_lower (hs : '\\' ∉ s) : parsePort scheme (lower s) = parsePort scheme s := by
  have hrest : '\\' ∉ (spanDigits s).2 := fun h => hs ((List.dropWhile_suffix _).subset h)
  rw [parsePort, parsePort, spanDigits_lower]
  dsimp only
  cases hr : (spanDigits s).2 with
  | nil => rfl
  | cons c r =>
    have hc : c ≠ '\\' := fun h => hrest (hr ▸ h ▸ List.mem_cons_self)
    have hc' : c.toLower ≠ '\\' := fun h => hc ((toLower_eq_iff (by decide)).mp h)
    simp [lower_cons, hc, hc']

theorem splitHost_lower (inside : Bool) (s : List Char) : splitHost inside (lower s) =
    (lower (splitHost inside s).1, lower (splitHost inside s).2) := by
  induction s generalizing inside with
  | nil => rfl
  | cons c r ih =>
    rw [lower_cons, splitHost, splitHost]
    simp only [toLower_eq_iff (show (':' : Char).isAlpha = false by decide),
      toLower_eq_iff (show ('[' : Char).isAlpha = false by decide),
      toLower_eq_iff (show (']' : Char).isAlpha = false by decide), ih]
    split <;> rfl

/-- A host and what follows it are the whole text. -/
theorem append_splitHost (inside : Bool) (s : List Char) :
    (splitHost inside s).1 ++ (splitHost inside s).2 = s := by
  induction s generalizing inside with
  | nil => rfl
  | cons c r ih =>
    rw [splitHost]
    split
    · rfl
    · exact congrArg (c :: ·) (ih _)

theorem splitHost_suffix (inside : Bool) (s : List Char) : (splitHost inside s).2 <:+ s :=
  ⟨_, append_splitHost inside s⟩

/-- What follows a user is part of the text. -/
theorem snd_splitUser_subset (s : List Char) : ((splitUser s).getD ([], s)).2 ⊆ s := by
  rw [splitUser]
  split
  · exact fun _ hc => hc
  · intro c hc
    have hc := List.mem_reverse.mp hc
    exact List.mem_reverse.mp ((List.takeWhile_prefix _).subset hc)

/-- What stands in front of a host: nothing, or a user. -/
def IsUserText (user : List Char) : Prop :=
  user = [] ∨ ∃ name, user = name ++ ['@']

/-- The user is told from what follows, whatever that is. -/
theorem IsUserText.exists_splitUser {user : List Char} (h : IsUserText user) :
    ∃ found name, ∀ host, '@' ∉ host → (splitUser (user ++ host)).isSome = found ∧
      (splitUser (user ++ host)).getD ([], user ++ host) = (name, host) := by
  rcases h with rfl | ⟨name, rfl⟩
  · refine ⟨false, [], fun host hhost => ?_⟩
    rw [List.nil_append, splitUser_eq_none hhost]
    exact ⟨rfl, rfl⟩
  · refine ⟨true, name, fun host hhost => ?_⟩
    rw [List.append_assoc, List.singleton_append, splitUser_append hhost]
    exact ⟨rfl, rfl⟩

/-- **A place is read in either case of its host.** -/
theorem Authority.parse_lower {user host : List Char} (hscheme : isSpecial scheme = true)
    (huser : IsUserText user) (hat : '@' ∉ host) (hslash : '\\' ∉ host) (more : Bool) :
    Authority.parse scheme (user ++ lower host) more =
      Authority.parse scheme (user ++ host) more := by
  have hat' : '@' ∉ lower host := fun h => hat ((mem_lower_iff (by decide)).mp h)
  have hempty : ∀ s, (lower s).isEmpty = s.isEmpty := fun _ => List.isEmpty_map
  have hport : ∀ c r, (splitHost false host).2 = c :: r → '\\' ∉ r := fun c r hrest h =>
    hslash ((splitHost_suffix false host).subset (hrest ▸ List.mem_cons_of_mem c h))
  obtain ⟨found, name, hsplit⟩ := huser.exists_splitUser
  obtain ⟨hfound, hname⟩ := hsplit host hat
  obtain ⟨hfound', hname'⟩ := hsplit (lower host) hat'
  rw [Authority.parse, Authority.parse]
  simp only [hfound, hname, hfound', hname', splitHost_lower, hempty, hscheme, if_true,
    Host.parse_lower]
  cases hrest : (splitHost false host).2 with
  | nil => rfl
  | cons c r => simp only [lower_cons, parsePort_lower (hport c r hrest)]

/-! ### Cutting -/

theorem ne_nil_of_isWeb_lower (h : isWeb (lower scheme) = true) : scheme ≠ [] := by
  rintro rfl
  exact absurd h (by decide)

/-- A scheme ends at the first colon. -/
theorem splitScheme?_of_forall (hscheme : ∀ c ∈ scheme, isSchemeChar c = true) (s : List Char) :
    splitScheme? (scheme ++ ':' :: s) =
      if scheme.head?.any Char.isAlpha then some (lower scheme, s) else none := by
  have hcolon : isSchemeChar ':' = false := by decide
  have htake : (scheme ++ ':' :: s).takeWhile isSchemeChar = scheme := by
    rw [List.takeWhile_append_of_pos hscheme, List.takeWhile_cons, hcolon]
    exact List.append_nil scheme
  have hdrop : (scheme ++ ':' :: s).dropWhile isSchemeChar = ':' :: s := by
    rw [List.dropWhile_append_of_pos hscheme, List.dropWhile_cons, hcolon]
    rfl
  cases scheme with
  | nil => rfl
  | cons c r =>
    rw [List.cons_append] at htake hdrop ⊢
    rw [splitScheme?, htake, hdrop, List.head?_cons, Option.any_some]
    cases c.isAlpha <;> rfl

theorem splitScheme?_append (h : isWeb (lower scheme) = true) (s : List Char) :
    splitScheme? (scheme ++ ':' :: s) = some (lower scheme, s) := by
  have hletter : ∀ c ∈ scheme, c.isAlpha = true := by
    have hlower : ((lower scheme).all Char.isAlpha) = true := by
      rcases eq_of_isWeb h with hs | hs <;> rw [hs] <;> decide
    exact fun c hc => (apply_toLower (by decide) c).symm.trans
      (List.all_eq_true.mp hlower _ (List.mem_map_of_mem hc))
  have hkeep : ∀ c ∈ scheme, isSchemeChar c = true := by
    intro c hc
    rw [isSchemeChar, Char.isAlphanum, hletter c hc]
    rfl
  obtain ⟨c, r, rfl⟩ := List.exists_cons_of_ne_nil (ne_nil_of_isWeb_lower h)
  rw [splitScheme?_of_forall hkeep, List.head?_cons, Option.any_some,
    if_pos (hletter c List.mem_cons_self)]

theorem cut_append (hs : ∀ c ∈ s, c ≠ mark) (t : List Char) :
    cut mark (s ++ t) = (s ++ (cut mark t).1, (cut mark t).2) := by
  have hfree : ∀ c ∈ s, (!(c == mark)) = true := fun c hc => by
    rw [beq_false_of_ne (hs c hc)]
    rfl
  rw [cut, cut, beforeFirst, beforeFirst, afterFirst, afterFirst,
    List.takeWhile_append_of_pos hfree, List.dropWhile_append_of_pos hfree]

/-- What ends the place that follows two slashes. -/
def isPlaceEnd (c : Char) : Bool :=
  isSlash true c || c == '?' || c == '#'

theorem isPlaceEnd_toLower (c : Char) : isPlaceEnd c.toLower = isPlaceEnd c :=
  apply_toLower (by decide) c

theorem of_not_isPlaceEnd (h : isPlaceEnd c = false) :
    isSlash true c = false ∧ c ≠ '?' ∧ c ≠ '#' := by
  rw [isPlaceEnd, Bool.or_eq_false_iff, Bool.or_eq_false_iff] at h
  exact ⟨h.1.1, ne_of_beq_false h.1.2, ne_of_beq_false h.2⟩

theorem isVisible_of_isPlaceEnd (h : isPlaceEnd c = true) : isVisible c = true := by
  simp only [isPlaceEnd, isSlash, Bool.true_and, Bool.or_eq_true, beq_iff_eq] at h
  rcases h with ((rfl | rfl) | rfl) | rfl <;> decide

theorem of_mem_head?_cut (hc : c ∈ (cut mark s).1.head?) : c ∈ s.head? ∧ c ≠ mark := by
  cases s with
  | nil => exact absurd hc (Option.not_mem_none c)
  | cons d r =>
    rw [cut, beforeFirst, List.takeWhile_cons] at hc
    split at hc
    · rename_i hd
      obtain rfl := Option.some.inj hc
      exact ⟨rfl, bne_iff_ne.mp hd⟩
    · exact absurd hc (Option.not_mem_none c)

/-- What is left of a tail when fragment and query are cut off starts with a slash. -/
theorem isSlash_of_head?_cut (h : ∀ c ∈ s.head?, isPlaceEnd c = true) :
    ∀ c ∈ (cut '?' (cut '#' s).1).1.head?, isSlash true c = true := by
  intro c hc
  obtain ⟨hc, hquery⟩ := of_mem_head?_cut hc
  obtain ⟨hc, hfragment⟩ := of_mem_head?_cut hc
  have hend := h c hc
  rwa [isPlaceEnd, beq_false_of_ne hquery, beq_false_of_ne hfragment, Bool.or_false,
    Bool.or_false] at hend

/-- A place is read up to the first slash. -/
theorem withAuthority_congr {place place' : List Char} (hscheme : isSpecial scheme = true)
    (hplace : ∀ c ∈ place, isSlash true c = false) (hplace' : ∀ c ∈ place', isSlash true c = false)
    (hbody : ∀ c ∈ body.head?, isSlash true c = true)
    (h : ∀ more, Authority.parse scheme place more = Authority.parse scheme place' more) :
    withAuthority scheme (place ++ body) q f = withAuthority scheme (place' ++ body) q f := by
  have htake : body.takeWhile (fun c => !isSlash true c) = [] := by
    cases body with
    | nil => rfl
    | cons c r => rw [List.takeWhile_cons, hbody c rfl]; rfl
  have hdrop : body.dropWhile (fun c => !isSlash true c) = body := by
    cases body with
    | nil => rfl
    | cons c r => rw [List.dropWhile_cons, hbody c rfl]; rfl
  have hnot : ∀ {place : List Char}, (∀ c ∈ place, isSlash true c = false) →
      ∀ c ∈ place, (!isSlash true c) = true := fun hplace c hc => by rw [hplace c hc]; rfl
  simp only [withAuthority, hscheme, List.takeWhile_append_of_pos (hnot hplace),
    List.takeWhile_append_of_pos (hnot hplace'), List.dropWhile_append_of_pos (hnot hplace),
    List.dropWhile_append_of_pos (hnot hplace'), htake, hdrop, List.append_nil, h]

/-- **What is read after a scheme of the web.** Slashes are passed over up to the place, which goes
as far as the first mark that ends it. -/
theorem parse_of_strip {slashes place tail : List Char} (hweb : isWeb (lower scheme) = true)
    (hslashes : ∀ c ∈ slashes, isSlash true c = true)
    (hplace : ∀ c ∈ place, isPlaceEnd c = false)
    (hhead : ∀ c ∈ (place ++ tail).head?, isSlash true c = false)
    (hs : strip s = scheme ++ ':' :: (slashes ++ (place ++ tail))) :
    parse s = withAuthority (lower scheme) (place ++ (cut '?' (cut '#' tail).1).1)
      (cut '?' (cut '#' tail).1).2 (cut '#' tail).2 := by
  have hfront : ∀ c ∈ slashes ++ place, c ≠ '?' ∧ c ≠ '#' := by
    intro c hc
    rcases List.mem_append.mp hc with hc | hc
    · refine ⟨?_, ?_⟩ <;> rintro rfl <;> exact absurd (hslashes _ hc) (by decide)
    · exact (of_not_isPlaceEnd (hplace c hc)).2
  have hscheme : ∀ c ∈ scheme ++ ':' :: (slashes ++ place), c ≠ '#' := by
    intro c hc
    rcases List.mem_append.mp hc with hc | hc
    · intro hmark
      exact (of_mem_scheme hweb (List.mem_map_of_mem hc)).2.2
        ((toLower_eq_iff (by decide)).mpr hmark)
    · rcases List.mem_cons.mp hc with rfl | hc
      · decide
      · exact (hfront c hc).2
  have hdrop : (slashes ++ place ++ (cut '?' (cut '#' tail).1).1).dropWhile (isSlash true) =
      place ++ (cut '?' (cut '#' tail).1).1 := by
    rw [List.append_assoc, List.dropWhile_append_of_pos hslashes]
    cases place with
    | cons c r => rw [List.cons_append, List.dropWhile_cons, hhead c rfl]; rfl
    | nil =>
      rw [List.nil_append] at hhead ⊢
      cases hcut : (cut '?' (cut '#' tail).1).1 with
      | nil => rfl
      | cons c r =>
        have hmem : c ∈ (cut '?' (cut '#' tail).1).1.head? := by rw [hcut]; rfl
        have hc := (of_mem_head?_cut (of_mem_head?_cut hmem).1).1
        rw [List.dropWhile_cons, hhead c hc]
        rfl
  have hcut : cut '#' (scheme ++ ':' :: (slashes ++ (place ++ tail))) =
      (scheme ++ ':' :: (slashes ++ place ++ (cut '#' tail).1), (cut '#' tail).2) := by
    have htext : scheme ++ ':' :: (slashes ++ (place ++ tail)) =
        (scheme ++ ':' :: (slashes ++ place)) ++ tail := by simp
    rw [htext, cut_append hscheme]
    simp
  rw [parse, parseFrom]
  simp only [hs, hcut, splitScheme?_append hweb, Option.elim_some,
    cut_append fun c hc => (hfront c hc).1]
  rw [parseWithScheme, isFile_of_isWeb hweb, isSpecial_of_isWeb hweb]
  simp only [hdrop, Option.filter_none, Bool.false_eq_true, if_false, if_true]

/-! ### Spellings -/

/-- The text of a web URL, cut around its host. A port is taken with the host. -/
structure Spelling where
  /-- What stands before the first colon. -/
  scheme : List Char
  /-- The slashes after the colon, as many as there are. -/
  slashes : List Char
  /-- The user with its mark, if there is one. -/
  user : List Char
  /-- The host, and the port if there is one. -/
  host : List Char
  /-- Path, query and fragment. -/
  tail : List Char
  /-- The scheme is one of the web, in either case. -/
  isWeb_scheme : isWeb (lower scheme) = true
  /-- All of them are slashes, in either direction. -/
  isSlash_slashes : ∀ c ∈ slashes, isSlash true c = true
  /-- The user has its mark. -/
  isUserText_user : IsUserText user
  /-- The user does not end the place. -/
  user_marks : ∀ c ∈ user, isPlaceEnd c = false
  /-- The host does not end the place, and nothing in it is taken for a user. -/
  host_marks : ∀ c ∈ host, isPlaceEnd c = false ∧ c ≠ '@'
  /-- The tail starts where the place ends. -/
  tail_mark : ∀ c ∈ tail.head?, isPlaceEnd c = true

namespace Spelling

variable {w : Spelling}

/-- The whole text. -/
def text (w : Spelling) : List Char :=
  w.scheme ++ ':' :: (w.slashes ++ (w.user ++ (w.host ++ w.tail)))

/-- The URL with its host in small letters. -/
def lowerHost (w : Spelling) : Spelling :=
  { w with
    host := lower w.host
    host_marks := by
      intro c hc
      obtain ⟨d, hd, rfl⟩ := List.mem_map.mp hc
      obtain ⟨hend, hat⟩ := w.host_marks d hd
      exact ⟨(isPlaceEnd_toLower d).trans hend, fun h => hat ((toLower_eq_iff (by decide)).mp h)⟩ }

/-! ### White space -/

/-- What may be dropped from a text: no visible character, and the same in either case. -/
structure IsDropped (p : Char → Bool) : Prop where
  /-- Visible characters are kept. -/
  visible : ∀ c, isVisible c = true → p c = false
  /-- A letter is kept in either case, or in none. -/
  toLower : ∀ c : Char, p c.toLower = p c

theorem isDropped_isSpace : IsDropped isSpace :=
  ⟨fun _ h => (not_isMargin_of_isVisible h).2.2, apply_toLower (by decide)⟩

theorem isDropped_isMargin : IsDropped isMargin :=
  ⟨fun _ h => (not_isMargin_of_isVisible h).1, apply_toLower (by decide)⟩

theorem isDropped_isSkipped : IsDropped isSkipped :=
  ⟨fun _ h => (not_isMargin_of_isVisible h).2.1, apply_toLower (by decide)⟩

section Dropped

variable (hp : IsDropped p) (w : Spelling)
include hp

theorem not_of_mem_scheme (hc : c ∈ w.scheme) : p c = false := by
  rw [← hp.toLower]
  exact hp.visible _ (of_mem_scheme w.isWeb_scheme (List.mem_map_of_mem hc)).1

theorem not_of_mem_slashes (hc : c ∈ w.slashes) : p c = false := by
  refine hp.visible c (isVisible_of_isPlaceEnd ?_)
  rw [isPlaceEnd, w.isSlash_slashes c hc]
  rfl

/-- Nothing is dropped in front of the host. -/
theorem dropTailWhile_front (t : List Char) :
    dropTailWhile p (w.scheme ++ ':' :: (w.slashes ++ (w.user ++ t))) =
      w.scheme ++ ':' :: (w.slashes ++ (w.user ++ dropTailWhile p t)) := by
  rw [dropTailWhile_append_cons (hp.visible ':' (by decide)),
    dropTailWhile_append fun c hc => not_of_mem_slashes hp w hc]
  rcases w.isUserText_user with huser | ⟨name, huser⟩
  · rw [huser]
    rfl
  · rw [huser, List.append_assoc, List.append_assoc, List.singleton_append, List.singleton_append,
      dropTailWhile_append_cons (hp.visible '@' (by decide))]

/-- What is dropped at the end of a text is dropped from its tail, or from its host if there is no
tail. -/
theorem exists_dropTailWhile : ∃ w' : Spelling, dropTailWhile p w.text = w'.text ∧
    dropTailWhile p w.lowerHost.text = w'.lowerHost.text := by
  have hmark := w.tail_mark
  cases htail : w.tail with
  | nil =>
    refine ⟨{ w with
      host := dropTailWhile p w.host
      host_marks := fun c hc => w.host_marks c (dropTailWhile_subset p w.host hc) }, ?_, ?_⟩
    · simp only [text, dropTailWhile_front hp, htail, List.append_nil]
    · rw [text, dropTailWhile_front hp]
      simp only [text, lowerHost, htail, List.append_nil, dropTailWhile_lower hp.toLower]
  | cons c r =>
    rw [htail] at hmark
    have hc : p c = false := hp.visible c (isVisible_of_isPlaceEnd (hmark c rfl))
    refine ⟨{ w with tail := c :: dropTailWhile p r, tail_mark := hmark }, ?_, ?_⟩
    · rw [text, dropTailWhile_front hp, htail, dropTailWhile_append_cons hc]
      rfl
    · rw [text, dropTailWhile_front hp]
      simp only [text, lowerHost, htail, dropTailWhile_append_cons hc]

theorem dropWhile_text : w.text.dropWhile p = w.text := by
  obtain ⟨c, r, hscheme⟩ := List.exists_cons_of_ne_nil (ne_nil_of_isWeb_lower w.isWeb_scheme)
  have hc : p c = false := not_of_mem_scheme hp w (hscheme ▸ List.mem_cons_self)
  rw [text, hscheme, List.cons_append, List.dropWhile_cons, hc]
  rfl

/-- What is dropped from within a text is dropped from its parts. -/
theorem exists_filter : ∃ w' : Spelling, (w.text.filter fun c => !p c) = w'.text ∧
    (w.lowerHost.text.filter fun c => !p c) = w'.lowerHost.text := by
  have hscheme : (w.scheme.filter fun c => !p c) = w.scheme :=
    List.filter_eq_self.mpr fun c hc => by rw [not_of_mem_scheme hp w hc]; rfl
  have hslashes : (w.slashes.filter fun c => !p c) = w.slashes :=
    List.filter_eq_self.mpr fun c hc => by rw [not_of_mem_slashes hp w hc]; rfl
  have hcolon : p ':' = false := hp.visible ':' (by decide)
  have huser : IsUserText (w.user.filter fun c => !p c) := by
    rcases w.isUserText_user with h | ⟨name, h⟩
    · exact Or.inl (by rw [h]; rfl)
    · refine Or.inr ⟨name.filter fun c => !p c, ?_⟩
      rw [h, List.filter_append]
      simp [hp.visible '@' (by decide)]
  have hlower : (lower w.host).filter (fun c => !p c) = lower (w.host.filter fun c => !p c) := by
    rw [lower, List.filter_map]
    simp only [Function.comp_def, hp.toLower]
    rfl
  have htail : ∀ c ∈ (w.tail.filter fun c => !p c).head?, isPlaceEnd c = true := by
    have hmark := w.tail_mark
    cases htail : w.tail with
    | nil => exact fun c hc => absurd hc (Option.not_mem_none c)
    | cons c r =>
      rw [htail] at hmark
      have hc : p c = false := hp.visible c (isVisible_of_isPlaceEnd (hmark c rfl))
      rw [List.filter_cons_of_pos (by rw [hc]; rfl)]
      exact hmark
  refine ⟨{ w with
    user := w.user.filter fun c => !p c
    host := w.host.filter fun c => !p c
    tail := w.tail.filter fun c => !p c
    isUserText_user := huser
    user_marks := fun c hc => w.user_marks c (List.mem_of_mem_filter hc)
    host_marks := fun c hc => w.host_marks c (List.mem_of_mem_filter hc)
    tail_mark := htail }, ?_, ?_⟩
  · simp [text, hscheme, hslashes, hcolon]
  · simp [text, lowerHost, hscheme, hslashes, hcolon, hlower]

end Dropped

/-- **White space is dropped from the parts.** -/
theorem exists_strip (w : Spelling) : ∃ w' : Spelling, strip (trim w.text) = w'.text ∧
    strip (trim w.lowerHost.text) = w'.lowerHost.text := by
  obtain ⟨w₁, h₁, h₁'⟩ := exists_dropTailWhile isDropped_isSpace w
  obtain ⟨w₂, h₂, h₂'⟩ := exists_dropTailWhile isDropped_isMargin w₁
  obtain ⟨w₃, h₃, h₃'⟩ := exists_filter isDropped_isSkipped w₂
  refine ⟨w₃, ?_, ?_⟩
  · rw [trim, trimWhere, dropWhile_text isDropped_isSpace, h₁, strip, trimWhere,
      dropWhile_text isDropped_isMargin, h₂, h₃]
  · rw [trim, trimWhere, dropWhile_text isDropped_isSpace, h₁', strip, trimWhere,
      dropWhile_text isDropped_isMargin, h₂', h₃']

/-! ### Reading the parts -/

theorem place_marks (w : Spelling) : ∀ c ∈ w.user ++ w.host, isPlaceEnd c = false := by
  intro c hc
  rcases List.mem_append.mp hc with hc | hc
  · exact w.user_marks c hc
  · exact (w.host_marks c hc).1

/-- **What is read of the parts.** -/
theorem parse_eq {s : List Char} (hs : strip s = w.text) (hne : w.host ≠ []) :
    parse s = withAuthority (lower w.scheme)
      ((w.user ++ w.host) ++ (cut '?' (cut '#' w.tail).1).1)
      (cut '?' (cut '#' w.tail).1).2 (cut '#' w.tail).2 := by
  refine parse_of_strip w.isWeb_scheme w.isSlash_slashes w.place_marks ?_ ?_
  · have hne' : w.user ++ w.host ≠ [] := List.append_ne_nil_of_right_ne_nil _ hne
    obtain ⟨d, r, hcons⟩ := List.exists_cons_of_ne_nil hne'
    rintro c hc
    rw [hcons] at hc
    obtain rfl := Option.some.inj hc
    exact (of_not_isPlaceEnd (w.place_marks d (hcons ▸ List.mem_cons_self))).1
  · rw [hs, text, List.append_assoc]

/-- **A text is read in either case of its host.** -/
theorem parse_lowerHost (w : Spelling) : parse (trim w.lowerHost.text) = parse (trim w.text) := by
  obtain ⟨w, hw, hw'⟩ := exists_strip w
  by_cases hne : w.host = []
  · have hsame : w.lowerHost.text = w.text := by
      simp [text, lowerHost, hne, lower]
    rw [parse, parse, parseFrom, parseFrom, hw, hw', hsame]
  · have hne' : w.lowerHost.host ≠ [] := fun h => hne (List.map_eq_nil_iff.mp h)
    have hspecial := isSpecial_of_isWeb w.isWeb_scheme
    have hslash : ∀ w : Spelling, ∀ c ∈ w.user ++ w.host, isSlash true c = false :=
      fun w c hc => (of_not_isPlaceEnd (w.place_marks c hc)).1
    rw [parse_eq hw hne, parse_eq hw' hne']
    refine withAuthority_congr hspecial (hslash w.lowerHost) (hslash w)
      (isSlash_of_head?_cut w.tail_mark) fun more => ?_
    refine Authority.parse_lower hspecial w.isUserText_user ?_ ?_ more
    · exact fun h => (w.host_marks _ h).2 rfl
    · exact fun h => absurd (w.host_marks _ h).1 (by decide)

theorem canonical?_lowerHost (w : Spelling) :
    canonical? w.lowerHost.text = canonical? w.text := by
  rw [canonical?, canonical?, parseWeb?, parseWeb?, parse_lowerHost]

end Spelling
end Metasearch.Url
