import Metasearch.Proofs.Url.Address
import Metasearch.Proofs.Url.Domain
import Metasearch.Url.Parser

/-!
# Hosts written and read

A host that reading gives is proper: a name in its ASCII form that is no number, or an address in
range. The text of a proper host is read as that host. Of the text, only two things matter to what
stands around it: it has none of the marks of a URL, and a colon stands in it only within brackets.

## Main definitions

* `Host.IsProper`: what reading gives.

## Main results

* `Host.isProper_of_parse`, `Host.parse_toText`.
* `splitHost_toText`: a host is cut off before a port.
-/

namespace Metasearch.Url

open Metasearch.Text Metasearch.Number Metasearch.Encoding

variable {c : Char} {s rest : List Char} {h : Host}

/-- A host that reading gives. -/
def Host.IsProper : Host → Prop
  | .domain name => name ≠ [] ∧ Domain.toAscii? name = some name ∧ endsInNumber name = false
  | .ipv4 address => address < count32
  | .ipv6 pieces => pieces.length = 8 ∧ ∀ p ∈ pieces, p < 65536

theorem Host.isProper_of_parseBracketed (hp : Host.parseBracketed s = .ok h) : h.IsProper := by
  rw [Host.parseBracketed] at hp
  split at hp
  · rename_i pieces hread
    obtain ⟨t, -, ht⟩ := Option.bind_eq_some_iff.mp hread
    obtain rfl := Except.ok.inj hp
    exact readIpv6?_bounds ht
  · cases hp

/-- **What reading gives is proper.** -/
theorem Host.isProper_of_parse (hp : Host.parse s = .ok h) : h.IsProper := by
  rw [Host.parse] at hp
  split at hp
  · exact Host.isProper_of_parseBracketed hp
  · split at hp
    · cases hp
    · cases hp
    · rename_i name hname hread
      obtain ⟨t, -, ht⟩ := Option.bind_eq_some_iff.mp hread
      split at hp
      · split at hp
        · rename_i address haddress
          obtain rfl := Except.ok.inj hp
          exact lt_of_readIpv4? haddress
        · cases hp
      · rename_i hnumber
        obtain rfl := Except.ok.inj hp
        refine ⟨fun hnil => hname hnil, Domain.toAscii?_ascii ht, ?_⟩
        simpa using hnumber

/-! ### The text of a host -/

/-- What stands in the text of a host: no mark of a URL. -/
def isHostChar (c : Char) : Bool :=
  keepInPlain c && !([' ', '/', '\\', '?', '#', '@', '%'].contains c)

theorem isHostChar_of_not_isForbidden (ha : c.toNat < 0x80) (hf : Domain.isForbidden c = false) :
    isHostChar c = true ∧ c ≠ ':' ∧ c ≠ '[' ∧ c ≠ ']' := by
  have hall : (isHostChar c && c != ':' && c != '[' && c != ']') = true :=
    imp_of_ascii (p := fun c => !Domain.isForbidden c)
      (q := fun c => isHostChar c && c != ':' && c != '[' && c != ']') (by decide) ha
      (by rw [hf]; rfl)
  simpa [and_assoc] using hall

theorem isHostChar_of_isDigit (hd : c.isDigit ∨ c = '.') :
    c.toNat < 0x80 ∧ Domain.isForbidden c = false := by
  rcases hd with hd | rfl
  · have hascii := toNat_lt_of_isDigit hd
    have hall : (!Domain.isForbidden c) = true :=
      imp_of_ascii (p := Char.isDigit) (q := fun c => !Domain.isForbidden c) (by decide) hascii hd
    exact ⟨hascii, by simpa using hall⟩
  · decide

theorem isHostChar_of_hex (hx : (hexValue? c).isSome ∨ c = ':') :
    isHostChar c = true ∧ c ≠ '[' ∧ c ≠ ']' := by
  rcases hx with hx | rfl
  · have hall : (isHostChar c && c != '[' && c != ']') = true :=
      Percent.of_isSome_hexValue? (p := fun c => isHostChar c && c != '[' && c != ']')
        (by decide) hx
    simpa [and_assoc] using hall
  · decide

/-- Names and IPv4 addresses have no colon and no bracket, besides the marks of a URL. -/
theorem mem_toText_of_not_ipv6 (hh : h.IsProper) (hv : ∀ pieces, h ≠ .ipv6 pieces)
    (hc : c ∈ h.toText) : isHostChar c = true ∧ c ≠ ':' ∧ c ≠ '[' ∧ c ≠ ']' := by
  cases h with
  | domain name =>
    obtain ⟨ha, hf⟩ := Domain.forall_mem_of_toAscii? hh.2.1 c hc
    exact isHostChar_of_not_isForbidden ha hf
  | ipv4 address =>
    obtain ⟨ha, hf⟩ := isHostChar_of_isDigit (mem_ipv4Text hc)
    exact isHostChar_of_not_isForbidden ha hf
  | ipv6 pieces => exact absurd rfl (hv pieces)

theorem isHostChar_of_mem_toText (hh : h.IsProper) (hc : c ∈ h.toText) : isHostChar c = true := by
  cases h with
  | domain name => exact (mem_toText_of_not_ipv6 hh (fun _ => Host.noConfusion) hc).1
  | ipv4 address => exact (mem_toText_of_not_ipv6 hh (fun _ => Host.noConfusion) hc).1
  | ipv6 pieces =>
    rw [Host.toText] at hc
    rcases List.mem_append.mp hc with hc | hc
    · rcases List.mem_cons.mp hc with rfl | hc
      · decide
      · exact (isHostChar_of_hex (mem_ipv6Text hc)).1
    · rw [List.mem_singleton.mp hc]
      decide

theorem Host.toText_ne_nil (hh : h.IsProper) : h.toText ≠ [] := by
  cases h with
  | domain name => exact hh.1
  | ipv4 address =>
    rw [Host.toText, ipv4Text, List.map_cons, List.map_cons, joinWith, List.append_assoc]
    exact List.append_ne_nil_of_left_ne_nil (numeral_ne_nil _) _
  | ipv6 pieces => exact List.cons_ne_nil _ _

/-! ### Reading it back -/

theorem percent_notMem (hs : ∀ c ∈ s, isHostChar c = true) : '%' ∉ s :=
  fun hmem => absurd (hs '%' hmem) (by decide)

theorem toAscii?_ipv4Text (address : Nat) :
    Domain.toAscii? (ipv4Text address) = some (ipv4Text address) := by
  refine Domain.toAscii?_of_plain ?_ ?_ ?_
  · exact fun c hc => (isHostChar_of_isDigit (mem_ipv4Text hc)).1
  · rw [List.any_eq_false]
    intro c hc
    rw [(isHostChar_of_isDigit (mem_ipv4Text hc)).2]
    exact Bool.false_ne_true
  · intro s hs
    cases hstrip : stripStart Domain.mark s with
    | none => rfl
    | some code =>
      -- the mark of Punycode has letters, and an address has none
      have hx : 'x' ∈ s := by
        rw [eq_append_of_stripStart hstrip]
        exact List.mem_append_left _ (by decide)
      rcases mem_ipv4Text (mem_of_mem_splitWhere hs hx) with hd | hd
      · exact absurd hd (by decide)
      · exact absurd hd (by decide)

theorem bracketed?_brackets (s : List Char) : bracketed? ('[' :: s ++ [']']) = some s := by
  rw [List.cons_append, bracketed?, List.getLast?_concat, List.dropLast_concat]
  rfl

/-- **A proper host is read back.** -/
theorem Host.parse_toText (hh : h.IsProper) : Host.parse h.toText = .ok h := by
  have hterm : '%' ∉ h.toText := percent_notMem fun c hc => isHostChar_of_mem_toText hh hc
  have hopen : (∀ pieces, h ≠ .ipv6 pieces) → (h.toText.head? == some '[') = false := by
    intro hv
    refine beq_false_of_ne fun heq => ?_
    exact (mem_toText_of_not_ipv6 hh hv (List.mem_of_head? heq)).2.2.1 rfl
  cases h with
  | domain name =>
    obtain ⟨hne, hascii, hnumber⟩ := hh
    rw [Host.parse, hopen fun _ => Host.noConfusion, Percent.decodeTerm?_of_notMem hterm]
    simp only [Host.toText, Option.bind_some, hascii, hnumber]
    cases name with
    | nil => exact absurd rfl hne
    | cons c r => rfl
  | ipv4 address =>
    have hne : (Host.ipv4 address).toText ≠ [] := Host.toText_ne_nil hh
    rw [Host.parse, hopen fun _ => Host.noConfusion, Percent.decodeTerm?_of_notMem hterm]
    simp only [Host.toText] at hne ⊢
    simp only [Option.bind_some, toAscii?_ipv4Text, endsInNumber_ipv4Text,
      readIpv4?_ipv4Text hh]
    cases htext : ipv4Text address with
    | nil => exact absurd htext hne
    | cons c r => rfl
  | ipv6 pieces =>
    have hopen : ((Host.ipv6 pieces).toText.head? == some '[') = true := rfl
    rw [Host.parse, hopen, if_pos rfl, Host.parseBracketed, Host.toText, bracketed?_brackets,
      Option.bind_some, readIpv6?_ipv6Text hh.1 hh.2]

/-! ### Host and port -/

theorem splitHost_append (inside : Bool)
    (hs : ∀ c ∈ s, (c = ':' → inside = true) ∧ c ≠ '[' ∧ c ≠ ']') (rest : List Char) :
    splitHost inside (s ++ rest) =
      (s ++ (splitHost inside rest).1, (splitHost inside rest).2) := by
  induction s with
  | nil => rfl
  | cons c r ih =>
    obtain ⟨hcolon, hopen, hclose⟩ := hs c List.mem_cons_self
    rw [List.cons_append, splitHost, if_neg, if_neg hopen, if_neg hclose,
      ih fun d hd => hs d (List.mem_cons_of_mem c hd)]
    · rfl
    · rintro ⟨hc, hin⟩
      rw [hcolon hc] at hin
      exact absurd hin Bool.false_ne_true

theorem splitHost_port (hr : rest = [] ∨ rest.head? = some ':') :
    splitHost false rest = ([], rest) := by
  rcases hr with rfl | hr
  · rfl
  · obtain ⟨t, rfl⟩ := List.head?_eq_some_iff.mp hr
    rfl

/-- **A host is cut off before a port**: the only colons in it stand within brackets. -/
theorem splitHost_toText (hh : h.IsProper) (hr : rest = [] ∨ rest.head? = some ':') :
    splitHost false (h.toText ++ rest) = (h.toText, rest) := by
  have hplain : (∀ pieces, h ≠ .ipv6 pieces) →
      splitHost false (h.toText ++ rest) = (h.toText, rest) := by
    intro hv
    have hs : ∀ c ∈ h.toText, (c = ':' → false = true) ∧ c ≠ '[' ∧ c ≠ ']' := by
      intro c hc
      obtain ⟨-, hcolon, hopen, hclose⟩ := mem_toText_of_not_ipv6 hh hv hc
      exact ⟨fun heq => absurd heq hcolon, hopen, hclose⟩
    rw [splitHost_append false hs, splitHost_port hr, List.append_nil]
  cases h with
  | domain name => exact hplain fun _ => Host.noConfusion
  | ipv4 address => exact hplain fun _ => Host.noConfusion
  | ipv6 pieces =>
    have hs : ∀ c ∈ ipv6Text pieces, (c = ':' → true = true) ∧ c ≠ '[' ∧ c ≠ ']' :=
      fun c hc => ⟨fun _ => rfl, (isHostChar_of_hex (mem_ipv6Text hc)).2⟩
    rw [Host.toText, List.append_assoc, List.cons_append, splitHost]
    simp only [if_true]
    rw [if_neg (by decide), splitHost_append true hs]
    rw [List.singleton_append, splitHost, if_neg (by decide), if_neg (by decide), if_pos rfl,
      splitHost_port hr]
    rfl

end Metasearch.Url
