import Metasearch.Adapter.Assembly
import Metasearch.Proofs.Template
import Metasearch.Proofs.Url.Marks
import Metasearch.Proofs.Url.Server

/-!
# What a query may change in a request

The URL of a request is made in three steps: the template is filled and read, the parameters of the
template are appended, and then the pairs that the engine adds. Only the first step can fail, and
only the first one writes anything but the query of the URL. What it fills in stands behind the
slash that ends the authority, where it has no influence on the server.

## Main results

* `Source.requestFor_appends`: the pairs of a request, and what else is in its URL.
* `Adapter.work_server`: no query leads to another server.
-/

namespace Metasearch

open Metasearch.Encoding

variable {s : Source} {q : Query} {u : Url} {r : Request}

namespace Source

theorem requestFor_eq_ok_iff :
    s.requestFor q = .ok r ↔
      ∃ u, s.request.render q = .ok u ∧ ⟨u.appendPairs (s.ownPairs q), s.headers q⟩ = r := by
  rw [requestFor]
  cases s.request.render q <;> simp

theorem exists_of_isSome_requestFor (h : (s.requestFor q).toOption.isSome = true) :
    ∃ r, s.requestFor q = .ok r := by
  cases hr : s.requestFor q with
  | error f =>
    rw [hr] at h
    cases h
  | ok r => exact ⟨r, rfl⟩

/-- A request is built if the filled template is a URL, and from it. -/
theorem requestFor_of_parse (h : Url.parse (s.request.filledUrl q) = .ok u) :
    s.requestFor q = .ok ⟨(u.appendPairs (s.request.filledParams q)).appendPairs (s.ownPairs q),
      s.headers q⟩ :=
  requestFor_eq_ok_iff.mpr ⟨_, Template.render_eq_ok_iff.mpr ⟨u, h, rfl⟩, rfl⟩

/-- Nothing that is sent holds a mark of the query where it would be taken for one. -/
theorem isMarked_of_requestFor (h : s.requestFor q = .ok r) : r.url.IsMarked := by
  obtain ⟨v, hv, rfl⟩ := requestFor_eq_ok_iff.mp h
  obtain ⟨u, hu, rfl⟩ := Template.render_eq_ok_iff.mp hv
  exact ((Url.isMarked_of_parse hu).appendPairs _).appendPairs _

/-- **No parameter is lost, changed or moved on the way into a request.** A template is rendered if
it is a URL when it is filled. The pairs of that URL come first, then the parameters of the template
in the order of their names, however they were given, with the terms as they are in their values;
the pairs of the engine come last. All else in the URL stays. -/
theorem requestFor_appends {url : String} {params : List (String × String)}
    (hs : s.request = (Template.ofUrl url).withParams params) (q : Query) :
    ((∃ v, s.request.render q = .ok v) ↔ ∃ u, Url.parse (s.request.filledUrl q) = .ok u) ∧
      (s.request.params.map (·.1)).Pairwise (· < ·) ∧
      ∀ u, Url.parse (s.request.filledUrl q) = .ok u →
        ∃ v r, s.request.render q = .ok v ∧ s.requestFor q = .ok r ∧
          v.queryPairs = u.queryPairs ++ s.request.params.map (fun p =>
            (p.1.toList, fill (Template.placeholder q q.terms.toList) p.2.toList)) ∧
          r.url.queryPairs = v.queryPairs ++ s.ownPairs q ∧
          v = { u with query := v.query } ∧ r.url = { u with query := r.url.query } := by
  refine ⟨?_, ?_, fun u hu => ?_⟩
  · simp only [Template.render_eq_ok_iff]
    constructor
    · rintro ⟨v, u, hu, -⟩
      exact ⟨u, hu⟩
    · rintro ⟨u, hu⟩
      exact ⟨_, u, hu, rfl⟩
  · have hordered : s.request.IsOrdered := by
      rw [hs]
      exact Template.isOrdered_withParams (t := Template.ofUrl url) List.Pairwise.nil params
    exact List.pairwise_map.mpr hordered
  · refine ⟨_, _, Template.render_eq_ok_iff.mpr ⟨u, hu, rfl⟩, requestFor_of_parse hu, ?_, ?_, rfl,
      rfl⟩
    · exact Url.queryPairs_appendPairs u _
    · exact Url.queryPairs_appendPairs _ _

/-- A template with a query and a fragment of its own, asked in German for its second page. -/
theorem requestFor_appends_german :
    let t := (Template.ofUrl "https://u@h.org:8/s?a=%26&&p=\x7bpage\x7d#x").withParams
      [("q", "\x7bquery\x7d & more"), ("b", "\x7blanguage\x7d")]
    let s := { Source.make "s" .bing t with paging := true }
    let q := { Query.ofTerms "ä=&\x7bpage\x7d" with language := some "de#", page := 2 }
    ∃ u r, Url.parse (s.request.filledUrl q) = .ok u ∧ s.requestFor q = .ok r ∧
      r.url = { u with query := r.url.query } ∧
      r.url.queryPairs = [("a", "&"), ("p", "2"), ("b", "de#"), ("q", "ä=&\x7bpage\x7d & more"),
        ("first", "11"), ("setlang", "de#"), ("adlt", "off")].map fun p =>
          (p.1.toList, p.2.toList) := by
  intro t s q
  have hread : (Url.parse (s.request.filledUrl q)).toOption.map Url.queryPairs =
      some [(['a'], ['&']), (['p'], ['2'])] := by decide +kernel
  cases hu : Url.parse (s.request.filledUrl q) with
  | error e =>
    rw [hu] at hread
    cases hread
  | ok u =>
    rw [hu] at hread
    obtain ⟨v, r, -, hr, hv, hown, -, hkept⟩ := (requestFor_appends (s := s) rfl q).2.2 u hu
    refine ⟨u, r, rfl, hr, hkept, ?_⟩
    rw [hown, hv, Option.some.inj hread]
    decide +kernel

end Source

/-! ### The server -/

/-- The template of a server: it is read with the slash that ends its authority, and whatever is
filled in after that. -/
theorem Template.server_of_parse {t : Template} {scheme authority rest : List Char} {home : Url}
    (hscheme : scheme = "http".toList ∨ scheme = "https".toList)
    (ht : t.url.toList = scheme ++ "://".toList ++ authority ++ '/' :: rest)
    (hplain : ∀ name ∈ placeholderNames, ¬('\x7b' :: name ++ ['\x7d'] <:+: authority))
    (hhome : Url.parse (scheme ++ "://".toList ++ authority ++ ['/']) = .ok home) (q : Query) :
    ∃ u, Url.parse (t.filledUrl q) = .ok u ∧ u.server = home.server := by
  have hweb : Url.isWeb scheme = true := by rcases hscheme with rfl | rfl <;> rfl
  have hfree : ¬HasPlaceholder (placeholder q (Percent.encodeTerm q.terms.toList)) authority := by
    rintro ⟨name, hname, hinfix⟩
    exact hplain name (mem_placeholderNames hname) hinfix
  have hmarks : ∀ s, fill (placeholder q (Percent.encodeTerm q.terms.toList))
      (scheme ++ ':' :: '/' :: '/' :: s) = scheme ++ ':' :: '/' :: '/' ::
        fill (placeholder q (Percent.encodeTerm q.terms.toList)) s := by
    intro s
    rcases hscheme with rfl | rfl <;> simp [fill_cons_of_ne]
  have hfilled : t.filledUrl q = scheme ++ ':' :: '/' :: '/' :: (authority ++
      '/' :: fill (placeholder q (Percent.encodeTerm q.terms.toList)) rest) := by
    have htext : t.url.toList = scheme ++ ':' :: '/' :: '/' :: (authority ++ '/' :: rest) := by
      rw [ht]
      simp
    rw [filledUrl, htext, hmarks, fill_append_cons (fun _ => placeholder_eq_none) (by decide)
      (by decide), fill_eq_self hfree]
  rw [hfilled]
  refine Url.exists_parse_of_parse_slash hweb ?_ _
  rw [← hhome]
  simp

namespace Adapter

variable {a : Adapter}

theorem connect_eq_ok_iff : connect s = .ok a ↔ ∃ read, s.reader = .ok read ∧ ofReader s read = a := by
  rw [connect]
  cases s.reader <;> simp [Except.map]

theorem work_ofReader {read : Request → String → Except Failure (List Record)}
    (h : s.requestFor q = .ok r) : (ofReader s read).work q = .exchange r (read r) := by
  simp only [ofReader, h]

/-- **No query leads to another server.** -/
theorem work_server {scheme authority rest : List Char} {home : Url} (ha : connect s = .ok a)
    (hscheme : scheme = "http".toList ∨ scheme = "https".toList)
    (hs : s.request.url.toList = scheme ++ "://".toList ++ authority ++ '/' :: rest)
    (hplain : ∀ name ∈ Template.placeholderNames, ¬('\x7b' :: name ++ ['\x7d'] <:+: authority))
    (hhome : Url.parse (scheme ++ "://".toList ++ authority ++ ['/']) = .ok home) :
    (∀ q, ∃ r read, a.work q = .exchange r read ∧
      r.url.scheme = home.scheme ∧ r.url.authority = home.authority) ∧
      ∀ q q' r r' read read', a.work q = .exchange r read → a.work q' = .exchange r' read' →
        r.url.scheme = r'.url.scheme ∧ r.url.authority = r'.url.authority := by
  obtain ⟨reader, -, rfl⟩ := connect_eq_ok_iff.mp ha
  have hserver : ∀ q, ∃ r read, (ofReader s reader).work q = .exchange r read ∧
      r.url.scheme = home.scheme ∧ r.url.authority = home.authority := by
    intro q
    obtain ⟨u, hu, hserver⟩ := Template.server_of_parse hscheme hs hplain hhome q
    obtain ⟨hu₁, hu₂⟩ := Prod.mk.inj hserver
    exact ⟨_, _, work_ofReader (Source.requestFor_of_parse hu), hu₁, hu₂⟩
  refine ⟨hserver, fun q q' r r' read read' hr hr' => ?_⟩
  obtain ⟨r₀, read₀, hr₀, hscheme₀, hauthority₀⟩ := hserver q
  obtain ⟨r₁, read₁, hr₁, hscheme₁, hauthority₁⟩ := hserver q'
  obtain ⟨rfl, -⟩ := Work.exchange.inj (hr₀.symm.trans hr)
  obtain ⟨rfl, -⟩ := Work.exchange.inj (hr₁.symm.trans hr')
  exact ⟨hscheme₀.trans hscheme₁.symm, hauthority₀.trans hauthority₁.symm⟩

/-- A user, a port and a brace in front of the slash, and all marks behind it. -/
theorem work_server_marks :
    let s := Source.make "s" .feed (Template.ofUrl
      "https://u\x7b:@h.org:8080/\x7blanguage\x7d/\x7bquery\x7d")
    let q := { Query.ofTerms "x" with language := some "@evil.org\\..#?:\t" }
    ∃ a, connect s = .ok a ∧ ∃ r read, a.work q = .exchange r read ∧
      r.url.scheme = "https".toList ∧
      r.url.authority = some ⟨"u%7B".toList, [], .domain "h.org".toList, some 8080⟩ := by
  intro s q
  have hhome : (Url.parse ("https".toList ++ "://".toList ++ "u\x7b:@h.org:8080".toList ++
      ['/'])).toOption.map Url.server = some ("https".toList,
        some ⟨"u%7B".toList, [], .domain "h.org".toList, some 8080⟩) := by decide +kernel
  cases hu : Url.parse ("https".toList ++ "://".toList ++ "u\x7b:@h.org:8080".toList ++ ['/']) with
  | error e =>
    rw [hu] at hhome
    cases hhome
  | ok home =>
    rw [hu] at hhome
    obtain ⟨hscheme, hauthority⟩ := Prod.mk.inj (Option.some.inj hhome)
    have hplain : ∀ name ∈ Template.placeholderNames,
        ¬('\x7b' :: name ++ ['\x7d'] <:+: "u\x7b:@h.org:8080".toList) := by
      intro name _ hinfix
      have hclose : '\x7d' ∈ "u\x7b:@h.org:8080".toList := hinfix.subset (by simp)
      exact absurd hclose (by decide)
    have hurl : s.request.url.toList = "https".toList ++ "://".toList ++
        "u\x7b:@h.org:8080".toList ++ '/' :: "\x7blanguage\x7d/\x7bquery\x7d".toList := by
      decide +kernel
    obtain ⟨a, ha⟩ : ∃ a, connect s = .ok a := ⟨_, rfl⟩
    obtain ⟨r, read, hr, hscheme', hauthority'⟩ :=
      (work_server ha (Or.inr rfl) hurl hplain hu).1 q
    exact ⟨a, ha, r, read, hr, hscheme'.trans hscheme, hauthority'.trans hauthority⟩

end Adapter
end Metasearch
