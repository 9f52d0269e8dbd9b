import Mathlib.Tactic.ByContra
import Mathlib.Tactic.SplitIfs
import Metasearch.Proofs.Text.Ascii
import Metasearch.Proofs.Text.Pieces
import Metasearch.Toml.Parser
import Metasearch.Toml.Printer

/-!
# Quoted text and names of TOML, written and read

Basic text is read back character by character, since each escape stands for the character that it
was written for. Literal text is read back as it stands: it is only chosen for a text in which no
closing quotes can be found too early.

## Main definitions

* `isWritten`: the characters that documents are written with.

## Main results

* `readQuoted_quoted`: a text in whichever form it is written.
* `readName_nameText`, `readPath_pathText`: a name, and names joined by dots.
-/

namespace Metasearch.Toml

open Metasearch.Number Metasearch.Text

variable {c : Char} {s rest : List Char}

theorem prepend_some (c : Char) (o : Option (List Char × List Char)) :
    prepend (some c) o = o.map fun p => (c :: p.1, p.2) := by
  cases o <;> rfl

/-! ### Escapes -/

set_option maxRecDepth 4000 in
/-- A control character in four hexadecimal digits. -/
theorem charOfHex?_control (hc : c.toNat < 0x80) : charOfHex?
    ['0', '0', upperHexDigit (c.toNat / 16), upperHexDigit (c.toNat % 16)] = some c := by
  have hall := forall_ascii (p := fun c => charOfHex?
    ['0', '0', upperHexDigit (c.toNat / 16), upperHexDigit (c.toNat % 16)] == some c)
    (by decide) hc
  simpa using hall

/-- An escape of one letter, in text on one line. -/
theorem readBasic_simple {e c : Char} (he : simpleEscape? e = some c) (r : List Char) :
    readBasic ('\\' :: e :: r) = prepend (some c) (readBasic r) := by
  have hne : e ≠ 'u' ∧ e ≠ 'U' := by
    constructor <;> rintro rfl <;> simp [simpleEscape?] at he
  rw [readBasic.eq_4 e r (fun _ _ _ _ _ h _ => hne.1 h) (fun _ _ _ _ _ _ _ _ _ h _ => hne.2 h),
    he]

/-- A character that is not escaped, in text on one line. -/
theorem readBasic_cons (hquote : c ≠ '"') (hback : c ≠ '\\') (hc : isPrintable c = true)
    (r : List Char) : readBasic (c :: r) = prepend (some c) (readBasic r) := by
  rw [readBasic.eq_5 c r hquote (fun _ _ _ _ _ h _ => hback h)
    (fun _ _ _ _ _ _ _ _ _ h _ => hback h) (fun _ _ h _ => hback h), if_pos hc]

/-- A character in basic text is an escape of one letter, an escape with its digits, or as it
is. -/
theorem escaped_cases (lines : Bool) (c : Char) :
    (∃ e, simpleEscape? e = some c ∧ escaped lines c = ['\\', e]) ∨
    (c.toNat < 0x80 ∧ escaped lines c = '\\' :: 'u' ::
      ['0', '0', upperHexDigit (c.toNat / 16), upperHexDigit (c.toNat % 16)]) ∨
    (escaped lines c = [c] ∧ c ≠ '"' ∧ c ≠ '\\' ∧
      (isPrintable c = true ∨ lines = true ∧ c = '\n')) := by
  have hsimple : ∀ e, simpleEscape? e = some c → escaped lines c = ['\\', e] →
      ∃ e, simpleEscape? e = some c ∧ escaped lines c = ['\\', e] := fun e he h => ⟨e, he, h⟩
  rw [escaped] at hsimple ⊢
  split_ifs at hsimple ⊢ with h₁ h₂ h₃ hlines h₅ h₆ h₇ h₈ h₉
  · exact .inl (hsimple 'b' (by subst c; rfl) rfl)
  · exact .inl (hsimple 't' (by subst c; rfl) rfl)
  · exact .inr (.inr ⟨h₃ ▸ rfl, by simp [h₃], by simp [h₃], .inr ⟨hlines, h₃⟩⟩)
  · exact .inl (hsimple 'n' (by subst c; rfl) rfl)
  · exact .inl (hsimple 'f' (by subst c; rfl) rfl)
  · exact .inl (hsimple 'r' (by subst c; rfl) rfl)
  · exact .inl (hsimple '"' (by subst c; rfl) rfl)
  · exact .inl (hsimple '\\' (by subst c; rfl) rfl)
  · refine .inr (.inl ⟨?_, rfl⟩)
    simp at h₉
    omega
  · refine .inr (.inr ⟨rfl, h₇, h₈, .inl ?_⟩)
    simp at h₉
    simp [isPrintable]
    omega

/-- **A character that was written on one line is read back.** -/
theorem readBasic_escaped (c : Char) (r : List Char) :
    readBasic (escaped false c ++ r) = prepend (some c) (readBasic r) := by
  rcases escaped_cases false c with ⟨e, he, h⟩ | ⟨hc, h⟩ | ⟨h, hquote, hback, hc⟩
  · rw [h]
    exact readBasic_simple he r
  · rw [h]
    simp only [List.cons_append, List.nil_append]
    rw [readBasic, charOfHex?_control hc]
  · rw [h]
    exact readBasic_cons hquote hback (by simpa using hc) r

theorem readBasic_flatMap_escaped (s rest : List Char) :
    readBasic (s.flatMap (escaped false) ++ '"' :: rest) = some (s, rest) := by
  induction s with
  | nil => simp [readBasic]
  | cons c s ih =>
    rw [List.flatMap_cons, List.append_assoc, readBasic_escaped, ih]
    rfl

/-! ### Basic text on several lines -/

theorem readBasicLines_simple {e c : Char} (he : simpleEscape? e = some c) (r : List Char) :
    readBasicLines .none ('\\' :: e :: r) = prepend (some c) (readBasicLines .none r) := by
  have hne : e ≠ 'u' ∧ e ≠ 'U' ∧ e ≠ '\n' ∧ isBlank e = false := by
    refine ⟨?_, ?_, ?_, ?_⟩
    · rintro rfl; simp [simpleEscape?] at he
    · rintro rfl; simp [simpleEscape?] at he
    · rintro rfl; simp [simpleEscape?] at he
    · by_contra hblank
      simp only [isBlank, Bool.not_eq_false, Bool.or_eq_true, beq_iff_eq] at hblank
      rcases hblank with rfl | rfl <;> simp [simpleEscape?] at he
  rw [readBasicLines] <;> simp [hne, he]

theorem readBasicLines_cons (hquote : c ≠ '"') (hback : c ≠ '\\')
    (hc : isPrintable c = true ∨ c = '\n') (r : List Char) :
    readBasicLines .none (c :: r) = prepend (some c) (readBasicLines .none r) := by
  rw [readBasicLines] <;> simp [hquote, hback, hc]

/-- **A character that was written on several lines is read back.** -/
theorem readBasicLines_escaped (c : Char) (r : List Char) :
    readBasicLines .none (escaped true c ++ r) = prepend (some c) (readBasicLines .none r) := by
  rcases escaped_cases true c with ⟨e, he, h⟩ | ⟨hc, h⟩ | ⟨h, hquote, hback, hc⟩
  · rw [h]
    exact readBasicLines_simple he r
  · rw [h]
    simp only [List.cons_append, List.nil_append]
    rw [readBasicLines]
    simp [charOfHex?_control hc]
  · rw [h]
    exact readBasicLines_cons hquote hback (hc.imp_right And.right) r

theorem readBasicLines_flatMap_escaped (s : List Char) (hrest : rest.head? ≠ some '"') :
    readBasicLines .none (s.flatMap (escaped true) ++ '"' :: '"' :: '"' :: rest) =
      some (s, rest) := by
  induction s with
  | nil =>
    cases rest with
    | nil => simp [readBasicLines]
    | cons c r =>
      have hc : c ≠ '"' := by simpa using hrest
      rw [List.flatMap_nil, List.nil_append, readBasicLines] <;> simp [hc]
  | cons c s ih =>
    rw [List.flatMap_cons, List.append_assoc, readBasicLines_escaped, ih]
    rfl

/-! ### Literal text -/

theorem readLiteral_append (hs : ∀ c ∈ s, isPrintable c = true ∧ c ≠ '\'') (rest : List Char) :
    readLiteral (s ++ '\'' :: rest) = some (s, rest) := by
  induction s with
  | nil => rfl
  | cons c s ih =>
    obtain ⟨hc, hquote⟩ := hs c List.mem_cons_self
    rw [List.cons_append, readLiteral.eq_2 c _ hquote, if_pos hc, prepend_some,
      ih fun c hc => hs c (List.mem_cons_of_mem _ hc)]
    rfl

/-- **A text without three quotes in a row that does not end with one is read back.** -/
theorem readLiteralLines_append (hs : ∀ c ∈ s, isPrintable c = true ∨ c = '\n')
    (hthree : hasThreeQuotes s = false) (hlast : s.getLast? ≠ some '\'')
    (hrest : rest.head? ≠ some '\'') :
    readLiteralLines (s ++ '\'' :: '\'' :: '\'' :: rest) = some (s, rest) := by
  induction s with
  | nil =>
    cases rest with
    | nil => rfl
    | cons c r =>
      have hc : c ≠ '\'' := by simpa using hrest
      rw [List.nil_append, readLiteralLines] <;> simp [hc]
  | cons c s ih =>
    have hc := hs c List.mem_cons_self
    obtain ⟨hfirst, hthree⟩ : ['\'', '\'', '\''].isPrefixOf (c :: s) = false ∧
        hasThreeQuotes s = false := by
      simpa [hasThreeQuotes, occursIn] using hthree
    -- neither three quotes of the text nor its end with closing quotes are met
    have hopen : ∀ r, c = '\'' →
        s ++ '\'' :: '\'' :: '\'' :: rest ≠ '\'' :: '\'' :: r := by
      rintro r rfl h
      rcases s with - | ⟨d, - | ⟨e, s'⟩⟩
      · simp at hlast
      · simp_all
      · simp_all
    have hlast : s.getLast? ≠ some '\'' := by
      cases s with
      | nil => simp
      | cons d s => simpa using hlast
    rw [List.cons_append, readLiteralLines.eq_4 c _ (fun _ h h' => hopen _ h h')
      (fun _ h h' => hopen _ h h') (fun _ h h' => hopen _ h h'), if_pos (by simpa using hc),
      prepend_some, ih (fun c hc => hs c (List.mem_cons_of_mem _ hc)) hthree hlast]
    rfl

/-! ### A text in its form -/

/-- What literal text is chosen for. -/
theorem of_literal (h : (styleOf s).literal = true) : s ≠ [] ∧
    (∀ c ∈ s, isPrintable c = true ∨ c = '\n') ∧ hasThreeQuotes s = false ∧
      s.getLast? ≠ some '\'' := by
  simp only [styleOf, Bool.and_eq_true, Bool.not_eq_true', bne_iff_ne] at h
  obtain ⟨⟨⟨hsaves, hallows⟩, hthree⟩, hlast⟩ := h
  refine ⟨?_, fun c hc => ?_, hthree, hlast⟩
  · rintro rfl
    simp at hsaves
  · have hc := List.all_eq_true.mp hallows c hc
    simp only [isPrintable, Bool.or_eq_true, Bool.and_eq_true, beq_iff_eq] at hc ⊢
    rcases hc with (hc | hc) | hc
    · exact .inl (.inl hc)
    · exact .inr hc
    · exact .inl (.inr hc)

theorem skipLineFeed_eq_self (h : s.head? ≠ some '\n') : skipLineFeed s = s := by
  cases s with
  | nil => rfl
  | cons c s =>
    rw [skipLineFeed]
    rintro r heq
    simp_all

/-- A text that does not start with three quotes of either kind. -/
theorem readQuoted_eq_readQuotedName (hbasic : ∀ r, s ≠ '"' :: '"' :: '"' :: r)
    (hliteral : ∀ r, s ≠ '\'' :: '\'' :: '\'' :: r) : readQuoted s = readQuotedName s :=
  readQuoted.eq_3 s hbasic hliteral

/-- What is written for a character does not start with a quote. -/
theorem escaped_eq_cons (c : Char) : ∃ d t, escaped false c = d :: t ∧ d ≠ '"' := by
  rcases escaped_cases false c with ⟨e, -, h⟩ | ⟨-, h⟩ | ⟨h, hquote, -⟩
  · exact ⟨'\\', _, h, by decide⟩
  · exact ⟨'\\', _, h, by decide⟩
  · exact ⟨c, [], h, hquote⟩

/-- Literal text between single quotes. -/
theorem readQuoted_literal (hne : s ≠ []) (hs : ∀ c ∈ s, isPrintable c = true ∧ c ≠ '\'')
    (rest : List Char) : readQuoted ('\'' :: (s ++ '\'' :: rest)) = some (s, rest) := by
  obtain ⟨c, t, hcons⟩ := List.exists_cons_of_ne_nil hne
  have hc : c ≠ '\'' := (hs c (hcons ▸ List.mem_cons_self)).2
  rw [readQuoted_eq_readQuotedName, readQuotedName, readLiteral_append hs]
  · exact fun r heq => absurd (List.cons.inj heq).1 (by decide)
  · simp [hcons, hc]

/-- Basic text between double quotes; no quote follows, or an empty text would have three. -/
theorem readQuoted_basic (s : List Char) (hrest : rest.head? ≠ some '"') :
    readQuoted ('"' :: (s.flatMap (escaped false) ++ '"' :: rest)) = some (s, rest) := by
  rw [readQuoted_eq_readQuotedName, readQuotedName, readBasic_flatMap_escaped]
  · cases s with
    | nil =>
      rintro r heq
      exact hrest (by simpa using congrArg List.head? (List.cons.inj (List.cons.inj heq).2).2)
    | cons c s =>
      obtain ⟨d, t, hescaped, hd⟩ := escaped_eq_cons c
      simp [hescaped, hd]
  · exact fun r heq => absurd (List.cons.inj heq).1 (by decide)

/-- **A quoted text is read back**, where no quote follows it. -/
theorem readQuoted_quoted (s : List Char) (hbasic : rest.head? ≠ some '"')
    (hliteral : rest.head? ≠ some '\'') : readQuoted (quoted s ++ rest) = some (s, rest) := by
  have hlines : (styleOf s).lines = s.contains '\n' := rfl
  rw [quoted]
  split
  · rename_i hstyle
    obtain ⟨-, hs, hthree, hlast⟩ := of_literal (s := s) (by rw [hstyle])
    have hread := readLiteralLines_append hs hthree hlast hliteral
    simpa [readQuoted, skipLineFeed] using hread
  · rename_i hstyle
    obtain ⟨hne, hs, hthree, hlast⟩ := of_literal (s := s) (by rw [hstyle])
    have hfeed : '\n' ∉ s := by simpa [hstyle] using hlines.symm
    by_cases hquote : '\'' ∈ s
    · have hskip : skipLineFeed (s ++ '\'' :: '\'' :: '\'' :: rest) =
          s ++ '\'' :: '\'' :: '\'' :: rest := by
        refine skipLineFeed_eq_self fun h => hfeed ?_
        rw [List.head?_append_of_ne_nil _ hne] at h
        exact List.mem_of_mem_head? h
      have hread := readLiteralLines_append hs hthree hlast hliteral
      simpa [hquote, readQuoted, hskip] using hread
    · have hprint : ∀ c ∈ s, isPrintable c = true ∧ c ≠ '\'' := fun c hc =>
        ⟨(hs c hc).resolve_right fun h => hfeed (h ▸ hc), fun h => hquote (h ▸ hc)⟩
      simpa [hquote] using readQuoted_literal hne hprint rest
  · have hread := readBasicLines_flatMap_escaped s hbasic
    simpa [readQuoted, skipLineFeed] using hread
  · simpa using readQuoted_basic s hbasic

/-! ### Characters -/

/-- Holds of the characters that documents are written with. -/
def isWritten (c : Char) : Bool :=
  isPrintable c || c == '\n'

theorem isWritten_of_isPrintable (h : isPrintable c = true) : isWritten c = true := by
  simp [isWritten, h]

set_option maxRecDepth 4000 in
theorem isWritten_escaped (lines : Bool) (c : Char) :
    ∀ d ∈ escaped lines c, isWritten d = true := by
  rcases escaped_cases lines c with ⟨e, he, h⟩ | ⟨hc, h⟩ | ⟨h, -, -, hprint⟩
  · rw [h, List.forall_mem_cons, List.forall_mem_singleton]
    refine ⟨by decide, ?_⟩
    rw [simpleEscape?.eq_def] at he
    split at he <;> first | decide | cases he
  · have hdigits := forall_ascii (p := fun c => ['\\', 'u', '0', '0',
      upperHexDigit (c.toNat / 16), upperHexDigit (c.toNat % 16)].all isWritten) (by decide) hc
    rw [h]
    exact List.all_eq_true.mp hdigits
  · rw [h, List.forall_mem_singleton]
    rcases hprint with hprint | ⟨-, rfl⟩
    · exact isWritten_of_isPrintable hprint
    · decide

theorem isWritten_flatMap_escaped (lines : Bool) (s : List Char) :
    ∀ c ∈ s.flatMap (escaped lines), isWritten c = true := by
  intro c hc
  obtain ⟨d, -, hd⟩ := List.mem_flatMap.mp hc
  exact isWritten_escaped lines d c hd

/-- **A quoted text is written without control characters** but tabs and line feeds. -/
theorem isWritten_quoted (s : List Char) : ∀ c ∈ quoted s, isWritten c = true := by
  have hliteral : (styleOf s).literal = true → ∀ c ∈ s, isWritten c = true := by
    intro hs c hc
    rcases (of_literal hs).2.1 c hc with hc | rfl
    · exact isWritten_of_isPrintable hc
    · decide
  rw [quoted]
  split
  · rename_i hstyle
    simp only [List.forall_mem_append]
    exact ⟨⟨List.all_eq_true.mp rfl, hliteral (by rw [hstyle])⟩, List.all_eq_true.mp rfl⟩
  · rename_i hstyle
    simp only [List.forall_mem_append]
    refine ⟨⟨?_, hliteral (by rw [hstyle])⟩, ?_⟩ <;> split <;> exact List.all_eq_true.mp rfl
  · simp only [List.forall_mem_append]
    exact ⟨⟨List.all_eq_true.mp rfl, isWritten_flatMap_escaped true s⟩, List.all_eq_true.mp rfl⟩
  · simp only [List.forall_mem_append, List.forall_mem_cons]
    exact ⟨⟨by decide, isWritten_flatMap_escaped false s⟩, by decide, List.forall_mem_nil _⟩

/-! ### Names -/

/-- A name is bare characters, or starts with a quote. -/
theorem nameText_cases (name : String) :
    (nameText name = name.toList ∧ name.toList ≠ [] ∧ ∀ c ∈ name.toList, isBare c = true) ∨
    (nameText name = '\'' :: (name.toList ++ ['\'']) ∧
      ∀ c ∈ name.toList, isPrintable c = true ∧ c ≠ '\'') ∨
    nameText name = '"' :: (name.toList.flatMap (escaped false) ++ ['"']) := by
  rw [nameText]
  split_ifs with hbare hliteral
  · simp only [Bool.and_eq_true, Bool.not_eq_true', List.isEmpty_eq_false_iff] at hbare
    exact .inl ⟨rfl, hbare.1, List.all_eq_true.mp hbare.2⟩
  · refine .inr (.inl ⟨rfl, fun c hc => ?_⟩)
    have h := List.all_eq_true.mp (Bool.and_eq_true_iff.mp hliteral).2 c hc
    simp only [isPrintable, Bool.or_eq_true, Bool.and_eq_true, beq_iff_eq, bne_iff_ne,
      decide_eq_true_eq] at h ⊢
    rcases h with rfl | ⟨h, hne⟩
    · exact ⟨.inl rfl, by decide⟩
    · exact ⟨.inr h, hne⟩
  · exact .inr (.inr rfl)

/-- **A name is read back** up to a character that stands in none. -/
theorem readName_nameText (name : String) (hrest : ∀ c ∈ rest.head?, isBare c = false) :
    readName (nameText name ++ rest) = some (name, rest) := by
  rcases nameText_cases name with ⟨h, hne, hbare⟩ | ⟨h, hliteral⟩ | h
  · have hstop : rest.takeWhile isBare = [] ∧ rest.dropWhile isBare = rest := by
      cases rest with
      | nil => exact ⟨rfl, rfl⟩
      | cons c r => simp [hrest c rfl]
    rw [h, readName, List.takeWhile_append_of_pos hbare, List.dropWhile_append_of_pos hbare,
      hstop.1, hstop.2, List.append_nil]
    split
    · contradiction
    · simp
  · have hread := readLiteral_append hliteral rest
    simp [h, readName, isBare, readQuotedName, hread]
  · have hread := readBasic_flatMap_escaped name.toList rest
    simp [h, readName, isBare, readQuotedName, hread]

set_option maxRecDepth 4000 in
theorem isWritten_of_isBare (h : isBare c = true) : isWritten c = true := by
  have hlt : c.toNat < 0x80 := by
    simp only [isBare, Bool.or_eq_true, beq_iff_eq] at h
    rcases h with (h | rfl) | rfl
    · exact toNat_lt_of_isAlphanum h
    · decide
    · decide
  exact imp_of_ascii (by decide) hlt h

theorem isWritten_nameText (name : String) : ∀ c ∈ nameText name, isWritten c = true := by
  rcases nameText_cases name with ⟨h, -, hbare⟩ | ⟨h, hliteral⟩ | h
  · rw [h]
    exact fun c hc => isWritten_of_isBare (hbare c hc)
  · simp only [h, List.forall_mem_cons, List.forall_mem_append]
    exact ⟨by decide, fun c hc => isWritten_of_isPrintable (hliteral c hc).1, by decide,
      List.forall_mem_nil _⟩
  · simp only [h, List.forall_mem_cons, List.forall_mem_append]
    exact ⟨by decide, isWritten_flatMap_escaped false _, by decide, List.forall_mem_nil _⟩

/-- What a name starts with. -/
theorem nameText_eq_cons (name : String) :
    ∃ c t, nameText name = c :: t ∧ (isBare c = true ∨ c = '\'' ∨ c = '"') := by
  rcases nameText_cases name with ⟨h, hne, hbare⟩ | ⟨h, -⟩ | h
  · obtain ⟨c, t, hcons⟩ := List.exists_cons_of_ne_nil hne
    exact ⟨c, t, h.trans hcons, .inl (hbare c (hcons ▸ List.mem_cons_self))⟩
  · exact ⟨_, _, h, .inr (.inl rfl)⟩
  · exact ⟨_, _, h, .inr (.inr rfl)⟩

/-- A name starts without a blank. -/
theorem skipBlank_nameText (name : String) (s : List Char) :
    skipBlank (nameText name ++ s) = nameText name ++ s := by
  obtain ⟨c, t, h, hc⟩ := nameText_eq_cons name
  have hblank : isBlank c = false := by
    by_contra hblank
    simp only [isBlank, Bool.not_eq_false, Bool.or_eq_true, beq_iff_eq] at hblank
    rcases hblank with rfl | rfl <;> rcases hc with hc | hc | hc <;> exact absurd hc (by decide)
  simp [h, skipBlank, hblank]

/-- **Names joined by dots are read back.** -/
theorem readNames_pathText {path : List String} {fuel : Nat} (hne : path ≠ [])
    (hfuel : path.length ≤ fuel) (hrest : ∀ c ∈ rest.head?, isBare c = false)
    (hdot : (skipBlank rest).head? ≠ some '.') :
    readNames fuel (pathText path ++ rest) = some (path, skipBlank rest) := by
  induction path generalizing fuel with
  | nil => exact absurd rfl hne
  | cons name path ih =>
    obtain ⟨fuel, rfl⟩ := Nat.exists_eq_add_of_le' (show 1 ≤ fuel by simp at hfuel; omega)
    cases path with
    | nil =>
      have hname := readName_nameText name hrest
      have hlast : pathText [name] = nameText name := rfl
      rw [hlast, readNames, skipBlank_nameText, hname]
      simp only [Option.bind_eq_bind, Option.bind_some]
      split
      · rename_i heq
        rw [heq] at hdot
        exact absurd rfl hdot
      · rfl
    | cons next path =>
      have hrec : readNames fuel (pathText (next :: path) ++ rest) =
          some (next :: path, skipBlank rest) :=
        ih (List.cons_ne_nil next path) (by simp at hfuel ⊢; omega)
      have hcons : pathText (name :: next :: path) ++ rest =
          nameText name ++ '.' :: (pathText (next :: path) ++ rest) := by
        simp [pathText, joinWith]
      have hname : readName (nameText name ++ '.' :: (pathText (next :: path) ++ rest)) =
          some (name, '.' :: (pathText (next :: path) ++ rest)) :=
        readName_nameText name (by rintro c ⟨⟩; rfl)
      have hskip : ∀ s, skipBlank ('.' :: s) = '.' :: s := fun _ => rfl
      rw [hcons, readNames, skipBlank_nameText, hname]
      simp [hskip, hrec]

theorem isWritten_pathText (path : List String) : ∀ c ∈ pathText path, isWritten c = true := by
  intro c hc
  rcases mem_joinWith hc with ⟨t, ht, hc⟩ | hc
  · obtain ⟨name, -, rfl⟩ := List.mem_map.mp ht
    exact isWritten_nameText name c hc
  · rw [List.mem_singleton.mp hc]
    decide

/-- **A path is read back.** -/
theorem readPath_pathText (path : List String) (name : String) (hlength : path.length + 1 < maxDepth)
    (hrest : ∀ c ∈ rest.head?, isBare c = false) (hdot : (skipBlank rest).head? ≠ some '.') :
    readPath (pathText (path ++ [name]) ++ rest) = some (path, name, skipBlank rest) := by
  have hnames : readNames (maxDepth - 1) (pathText (path ++ [name]) ++ rest) =
      some (path ++ [name], skipBlank rest) :=
    readNames_pathText (by simp) (by simp [maxDepth] at hlength ⊢; omega) hrest hdot
  simp [readPath, hnames]

end Metasearch.Toml
