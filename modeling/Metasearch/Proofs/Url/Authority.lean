import Metasearch.Proofs.Url.Host

/-!
# Authorities written and read

User, host and port of a web URL. The `@` and the colons between them are found again since none of
the parts has one where it could be taken for theirs: user name and password have them escaped, a
host keeps its colons in brackets, and a port is made of digits.

## Main definitions

* `Authority.IsProper`: what reading gives.

## Main results

* `Authority.isProper_of_parse`, `Authority.parse_toText`.
-/

namespace Metasearch.Url

open Metasearch.Text Metasearch.Number Metasearch.Encoding

variable {scheme s u place : List Char} {a : Authority} {c : Char} {more : Bool}

/-! ### Users -/

theorem keepInUser_percent : keepInUser '%' = true := by decide

theorem keepInUser_of_hex (h : (hexValue? c).isSome) : keepInUser c = true :=
  Percent.of_isSome_hexValue? (by decide) h

theorem keepInPlain_of_keepInUser (h : keepInUser c = true) : keepInPlain c = true := by
  simp only [keepInUser, keepInPath, keepInFragment, Bool.and_eq_true] at h
  exact h.1.1.1

theorem toNat_lt_of_keepInPlain (h : keepInPlain c = true) : c.toNat < 0x80 := by
  simp only [keepInPlain, Bool.and_eq_true, decide_eq_true_eq] at h
  omega

theorem ne_colon_of_keepInUser (h : keepInUser c = true) : c ≠ ':' := by
  rintro rfl
  exact absurd h (by decide)

theorem splitUser_append (hp : '@' ∉ place) : splitUser (u ++ '@' :: place) = some (u, place) := by
  have hkeep : ∀ c ∈ place.reverse, (c != '@') = true := by
    intro c hc
    refine bne_iff_ne.mpr ?_
    rintro rfl
    exact hp (List.mem_reverse.mp hc)
  have hrev : (u ++ '@' :: place).reverse = place.reverse ++ '@' :: u.reverse := by simp
  have hdrop : (place.reverse ++ '@' :: u.reverse).dropWhile (· != '@') = '@' :: u.reverse := by
    rw [List.dropWhile_append_of_pos hkeep]
    rfl
  have htake : (place.reverse ++ '@' :: u.reverse).takeWhile (· != '@') = place.reverse := by
    rw [List.takeWhile_append_of_pos hkeep]
    exact List.append_nil _
  rw [splitUser, hrev, hdrop, htake, List.reverse_reverse]
  exact congrArg (fun v => some (v, place)) (List.reverse_reverse u)

theorem splitUser_eq_none (hp : '@' ∉ place) : splitUser place = none := by
  have hdrop : place.reverse.dropWhile (· != '@') = [] := by
    rw [List.dropWhile_eq_nil_iff]
    intro c hc
    refine bne_iff_ne.mpr ?_
    rintro rfl
    exact hp (List.mem_reverse.mp hc)
  rw [splitUser, hdrop]

/-! ### Ports -/

theorem parsePort_numeral {p : Nat} (hp : p ≤ 65535) (hd : defaultPort? scheme ≠ some p) :
    parsePort scheme (numeral p) = .ok (some p, []) := by
  have hdigits : ∀ c ∈ numeral p, c.isDigit = true := fun c hc => isDigit_of_mem_numeral hc
  have hspan : spanDigits (numeral p) = (numeral p, []) := by
    rw [spanDigits, List.takeWhile_eq_self_iff.mpr hdigits, List.dropWhile_eq_nil_iff.mpr hdigits]
  rw [parsePort, hspan]
  simp only [value_numeral, List.head?_nil, List.isEmpty_eq_false_iff.mpr (numeral_ne_nil p),
    beq_false_of_ne hd]
  rw [if_neg (Nat.not_lt.mpr hp)]
  rfl

theorem parsePort_bounds {p : Nat} {rest : List Char}
    (h : parsePort scheme s = .ok (some p, rest)) : p ≤ 65535 ∧ defaultPort? scheme ≠ some p := by
  rw [parsePort] at h
  dsimp only at h
  split at h
  · cases h
  · rename_i hrange
    split at h
    · cases h
    · split at h
      · cases h
      · rename_i hdefault
        have heq := Except.ok.inj h
        obtain rfl := Option.some.inj (Prod.mk.inj heq).1
        refine ⟨Nat.le_of_not_lt hrange, fun hd => hdefault ?_⟩
        rw [hd, Bool.or_eq_true]
        exact Or.inr (beq_self_eq_true _)

/-! ### Authorities -/

/-- An authority that reading gives after a scheme of the web. -/
structure Authority.IsProper (scheme : List Char) (a : Authority) : Prop where
  /-- The user name is escaped. -/
  username : ∀ c ∈ a.username, keepInUser c = true
  /-- The password is escaped. -/
  password : ∀ c ∈ a.password, keepInUser c = true
  /-- The host is proper. -/
  host : a.host.IsProper
  /-- The port is in range and not the scheme's own. -/
  port : ∀ p ∈ a.port, p ≤ 65535 ∧ defaultPort? scheme ≠ some p

theorem isHostChar_at : ¬isHostChar '@' = true := by decide

theorem mem_portText {port : Option Nat} (h : c ∈ portText port) : c = ':' ∨ c.isDigit = true := by
  cases port with
  | none => exact absurd h List.not_mem_nil
  | some p =>
    rcases List.mem_cons.mp h with rfl | h
    · exact Or.inl rfl
    · exact Or.inr (isDigit_of_mem_numeral h)

/-- What stands after the user has no `@`. -/
theorem at_notMem_place (ha : a.IsProper scheme) : '@' ∉ a.host.toText ++ portText a.port := by
  intro h
  rcases List.mem_append.mp h with h | h
  · exact isHostChar_at (isHostChar_of_mem_toText ha.host h)
  · rcases mem_portText h with h | h
    · exact absurd h (by decide)
    · exact absurd h (by decide)

/-- What stands in the text of an authority: no mark that ends it. -/
def isPlaceChar (c : Char) : Bool :=
  keepInPlain c && !([' ', '/', '\\', '?', '#'].contains c)

theorem isPlaceChar_of_isHostChar (h : isHostChar c = true) : isPlaceChar c = true := by
  simp only [isHostChar, isPlaceChar, Bool.and_eq_true, Bool.not_eq_true', List.contains_cons,
    List.contains_nil, Bool.or_eq_false_iff] at h ⊢
  exact ⟨h.1, h.2.1, h.2.2.1, h.2.2.2.1, h.2.2.2.2.1, h.2.2.2.2.2.1, trivial⟩

theorem isPlaceChar_of_keepInUser (h : keepInUser c = true) : isPlaceChar c = true :=
  imp_of_ascii (by decide) (toNat_lt_of_keepInPlain (keepInPlain_of_keepInUser h)) h

theorem isPlaceChar_of_isDigit (h : c.isDigit = true) : isPlaceChar c = true :=
  imp_of_ascii (by decide) (toNat_lt_of_isDigit h) h

theorem isPlaceChar_of_mem_userText (husername : ∀ c ∈ a.username, keepInUser c = true)
    (hpassword : ∀ c ∈ a.password, keepInUser c = true) (hc : c ∈ a.userText) :
    isPlaceChar c = true := by
  rw [Authority.userText] at hc
  split at hc
  · exact absurd hc List.not_mem_nil
  · rcases List.mem_append.mp hc with hc | hc
    · rcases List.mem_append.mp hc with hc | hc
      · exact isPlaceChar_of_keepInUser (husername c hc)
      · split at hc
        · exact absurd hc List.not_mem_nil
        · rcases List.mem_cons.mp hc with rfl | hc
          · decide
          · exact isPlaceChar_of_keepInUser (hpassword c hc)
    · rw [List.mem_singleton.mp hc]
      decide

theorem isPlaceChar_of_mem_portText {port : Option Nat} (hc : c ∈ portText port) :
    isPlaceChar c = true := by
  rcases mem_portText hc with rfl | hc
  · decide
  · exact isPlaceChar_of_isDigit hc

theorem isPlaceChar_of_mem_toText (ha : a.IsProper scheme) (hc : c ∈ a.toText) :
    isPlaceChar c = true := by
  rw [Authority.toText] at hc
  rcases List.mem_append.mp hc with hc | hc
  · rcases List.mem_append.mp hc with hc | hc
    · exact isPlaceChar_of_mem_userText ha.username ha.password hc
    · exact isPlaceChar_of_isHostChar (isHostChar_of_mem_toText ha.host hc)
  · exact isPlaceChar_of_mem_portText hc

theorem Authority.toText_ne_nil (ha : a.IsProper scheme) : a.toText ≠ [] :=
  List.append_ne_nil_of_left_ne_nil
    (List.append_ne_nil_of_right_ne_nil _ (Host.toText_ne_nil ha.host)) _

/-! ### Reading them back -/

/-- The user is found again before the last `@`, and so are its two parts. -/
theorem splitUser_toText (ha : a.IsProper scheme) :
    ∃ u, (splitUser a.toText).getD ([], a.toText) = (u, a.host.toText ++ portText a.port) ∧
      ((splitUser a.toText).isSome = true → u ≠ []) ∧
      beforeFirst (· == ':') u = a.username ∧ (afterFirst (· == ':') u).getD [] = a.password := by
  have hplace := at_notMem_place ha
  have hname : ∀ c ∈ a.username, (c == ':') = false :=
    fun c hc => beq_false_of_ne (ne_colon_of_keepInUser (ha.username c hc))
  rw [Authority.toText, Authority.userText, List.append_assoc]
  split
  · rename_i hempty
    rw [Bool.and_eq_true, List.isEmpty_iff, List.isEmpty_iff] at hempty
    refine ⟨[], ?_, ?_, hempty.1.symm, hempty.2.symm⟩
    · rw [List.nil_append, splitUser_eq_none hplace]
      rfl
    · rw [List.nil_append, splitUser_eq_none hplace]
      exact fun h => absurd h Bool.false_ne_true
  · rename_i hfull
    refine ⟨a.username ++ (if a.password.isEmpty then [] else ':' :: a.password), ?_, ?_, ?_, ?_⟩
    · rw [List.append_assoc, List.singleton_append, splitUser_append hplace]
      rfl
    · intro _ hnil
      obtain ⟨hu, hp⟩ := List.append_eq_nil_iff.mp hnil
      split at hp
      · rename_i hempty
        rw [hu, hempty] at hfull
        exact hfull rfl
      · exact absurd hp (List.cons_ne_nil _ _)
    · split
      · rw [List.append_nil, beforeFirst_eq_self hname]
      · exact beforeFirst_append hname rfl
    · split
      · rename_i hempty
        rw [List.append_nil, afterFirst_eq_none hname]
        exact (List.isEmpty_iff.mp hempty).symm
      · rw [afterFirst_append hname rfl]
        rfl

/-- **A proper authority is read back.** -/
theorem Authority.parse_toText (hs : isSpecial scheme = true) (ha : a.IsProper scheme)
    (more : Bool) : Authority.parse scheme a.toText more = .ok (a, []) := by
  obtain ⟨u, hsplit, -, husername, hpassword⟩ := splitUser_toText ha
  have hhost : a.host.toText.isEmpty = false :=
    List.isEmpty_eq_false_iff.mpr (Host.toText_ne_nil ha.host)
  have hplace : (a.host.toText ++ portText a.port).isEmpty = false :=
    List.isEmpty_eq_false_iff.mpr
      (List.append_ne_nil_of_left_ne_nil (Host.toText_ne_nil ha.host) _)
  have hport : portText a.port = [] ∨ (portText a.port).head? = some ':' := by
    cases a.port with
    | none => exact Or.inl rfl
    | some p => exact Or.inr rfl
  have hname : a.host ≠ .domain [] := by
    intro heq
    exact Host.toText_ne_nil ha.host (congrArg Host.toText heq)
  rw [Authority.parse]
  simp only [hsplit, hplace, hs, splitHost_toText ha.host hport, hhost, husername, hpassword,
    Percent.encode_eq_self ha.username, Percent.encode_eq_self ha.password,
    Host.parse_toText ha.host, Bool.and_false, Bool.false_and, Bool.false_eq_true, if_false,
    if_true, bind, Except.bind, decide_eq_false hname]
  obtain ⟨username, password, host, port⟩ := a
  cases port with
  | none => rfl
  | some p =>
    simp only [portText, parsePort_numeral (ha.port p rfl).1 (ha.port p rfl).2]
    rfl

/-- What reading gives is read part by part. -/
theorem Authority.exists_of_parse {left : List Char}
    (hp : Authority.parse scheme s more = .ok (a, left)) :
    (∀ c ∈ a.username, keepInUser c = true) ∧ (∀ c ∈ a.password, keepInUser c = true) ∧
      ∃ host rest, splitHost false ((splitUser s).getD ([], s)).2 = (host, rest) ∧
        (if isSpecial scheme then Host.parse host else Host.parsePlain host) = .ok a.host ∧
        (rest = [] ∧ a.port = none ∧ left = [] ∨
          ∃ c portText, rest = c :: portText ∧ parsePort scheme portText = .ok (a.port, left)) := by
  have huser : ∀ v, ∀ c ∈ Percent.encode keepInUser v, keepInUser c = true :=
    Percent.forall_mem_encode keepInUser_percent fun _ => keepInUser_of_hex
  rw [Authority.parse] at hp
  -- the host is read in two ways, and all that follows is the same
  cases hs : isSpecial scheme
  all_goals
    simp only [hs, if_true, if_false, Bool.false_eq_true, throw, throwThe, MonadExceptOf.throw,
      bind, Except.bind] at hp ⊢
    split at hp
    · cases hp
    · split at hp
      · cases hp
      · split at hp
        · cases hp
        · rename_i host hhost
          split at hp
          · cases hp
          · split at hp
            · rename_i hrest
              obtain ⟨rfl, rfl⟩ := Prod.mk.inj (Except.ok.inj hp)
              exact ⟨huser _, huser _, _, _, rfl, hhost, Or.inl ⟨hrest, rfl, rfl⟩⟩
            · rename_i c portText hrest
              split at hp
              · cases hp
              · rename_i parts hport
                obtain ⟨rfl, rfl⟩ := Prod.mk.inj (Except.ok.inj hp)
                exact ⟨huser _, huser _, _, _, rfl, hhost, Or.inr ⟨c, portText, hrest, hport⟩⟩

/-- **What reading gives is proper.** -/
theorem Authority.isProper_of_parse (hs : isSpecial scheme = true) {left : List Char}
    (hp : Authority.parse scheme s more = .ok (a, left)) : a.IsProper scheme := by
  obtain ⟨husername, hpassword, host, rest, -, hhost, hrest⟩ := Authority.exists_of_parse hp
  rw [if_pos hs] at hhost
  refine ⟨husername, hpassword, Host.isProper_of_parse hhost, fun p hport => ?_⟩
  rcases hrest with ⟨-, hnone, -⟩ | ⟨c, portText, -, hparse⟩
  · rw [hnone] at hport
    exact absurd hport (Option.not_mem_none p)
  · rw [Option.mem_def.mp hport] at hparse
    exact parsePort_bounds hparse

end Metasearch.Url
