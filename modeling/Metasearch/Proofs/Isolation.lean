import Metasearch.Proofs.Pacing.Requests
import Metasearch.Proofs.Ranking.Order
import Metasearch.Proofs.Ranking.Pages
import Metasearch.Proofs.Trial

/-!
# A failing source disturbs no other

Two series of calls are compared that are the same but for one source. The other sources cannot tell
them apart: each one has a gate, a limit and a place of its own. The ranking can, since the first
record of a page is the one that is kept, and that may have been a record of the source that now
fails. So scores, attributions and places of the pages that the source brought may change, and
nothing else does.

The reason is that leaving out pages goes with every step of ranking. It makes no difference whether
records of some pages are left out before the first record of each page is taken, before sorting, or
after it. And without the pages of the failing source, both series deliver the same records.

## Main definitions

* `Trial.AgreesBut`: two series that are the same but for one source.
* `Trial.Isolates`: what is the same in the answers to a search.

## Main results

* `Ranking.filter_ordered`: pages are left out before ranking or after it.
* `Trial.AgreesBut.forall₂_entries`: what the other sources contribute is the same.
* `Trial.search_isolates_failure`.
-/

namespace Metasearch

open Metasearch.Pacing

/-! ### Leaving out pages -/

/-- **Pages can be left out before ranking or after it.** -/
theorem Ranking.filter_ordered {k : Ranking}
    (hk : ∀ source, (k.weight source).isNaN = false) (p : String → Bool)
    (records : List Record) : (k.ordered records).filter (fun r => p r.url) =
      k.ordered (records.filter (Record.isOnPage p)) := by
  have hunique : (unique records).filter (fun r => p r.url) =
      unique (records.filter (Record.isOnPage p)) :=
    filter_uniqueAfter (fun _ _ => Iff.rfl) records
  rw [ordered, ordered, ← sorted_filter (isNaN_of_mem_scored hk), ← hunique, List.filter_map]
  rfl

theorem Ranking.mem_map_url_ordered (k : Ranking) (records : List Record) (u : String) :
    u ∈ (k.ordered records).map Record.url ↔ u ∈ canonicalUrls records := by
  rw [((k.ordered_perm records).map Record.url).mem_iff, map_url_scored, unique,
    mem_map_url_uniqueAfter]
  exact and_iff_left List.not_mem_nil

/-! ### Contributions -/

/-- Two contributions of one source, which are the same unless it is a given one. -/
def SameBut (id : String) (e e' : String × Slot) : Prop :=
  e'.1 = e.1 ∧ (e.1 ≠ id → e' = e)

/-- The records that a source contributed. -/
def Dispatch.recordsOf (d : Dispatch) (id : String) : List Record :=
  (d.entries.filter fun e => e.1 == id).flatMap fun e => e.2.records

theorem Dispatch.mem_recordsOf {d : Dispatch} {e : String × Slot} {r : Record}
    (he : e ∈ d.entries) (hr : r ∈ e.2.records) : r ∈ d.recordsOf e.1 :=
  List.mem_flatMap.mpr ⟨e, List.mem_filter.mpr ⟨he, beq_self_eq_true e.1⟩, hr⟩

theorem Dispatch.filter_records_eq {id : String} {d d' : Dispatch} {p : Record → Bool}
    (h : List.Forall₂ (SameBut id) d.entries d'.entries)
    (hp : ∀ r ∈ d.recordsOf id, p r = false) (hp' : ∀ r ∈ d'.recordsOf id, p r = false) :
    d.records.filter p = d'.records.filter p := by
  rw [records, records, List.filter_flatMap, List.filter_flatMap]
  have hnil : ∀ d : Dispatch, (∀ r ∈ d.recordsOf id, p r = false) → ∀ e ∈ d.entries, e.1 = id →
      e.2.records.filter p = [] := by
    rintro d hd e he rfl
    refine List.filter_eq_nil_iff.mpr fun r hr hpr => ?_
    exact Bool.false_ne_true ((hd r (mem_recordsOf he hr)).symm.trans hpr)
  have hleft := hnil d hp
  have hright := hnil d' hp'
  clear hp hp' hnil
  generalize d.entries = l, d'.entries = l' at h hleft hright
  induction h with
  | nil => rfl
  | @cons e e' l l' he _ ih =>
    have hhead : e.2.records.filter p = e'.2.records.filter p := by
      by_cases hid : e.1 = id
      · rw [hleft e List.mem_cons_self hid,
          hright e' List.mem_cons_self (he.1.trans hid)]
      · rw [he.2 hid]
    rw [List.flatMap_cons, List.flatMap_cons, hhead,
      ih (fun a ha => hleft a (List.mem_cons_of_mem e ha))
        fun a ha => hright a (List.mem_cons_of_mem e' ha)]

/-- Sources that contributed the same have the same records. -/
theorem Dispatch.recordsOf_eq {id source : String} {d d' : Dispatch}
    (h : List.Forall₂ (SameBut id) d.entries d'.entries) (hs : source ≠ id) :
    d'.recordsOf source = d.recordsOf source := by
  rw [recordsOf, recordsOf]
  generalize d.entries = l, d'.entries = l' at h
  induction h with
  | nil => rfl
  | @cons e e' l l' he _ ih =>
    by_cases hsource : e.1 = source
    · rw [he.2 (hsource ▸ hs)]
      simp [hsource, ih]
    · have hsource' : e'.1 ≠ source := fun heq => hsource (he.1.symm.trans heq)
      simp [hsource, hsource', ih]

/-! ### Trials -/

namespace Trial

/-- Two series are the same but for what one source does. -/
structure AgreesBut (id : String) (t t' : Trial) : Prop where
  /-- The calls are the same. -/
  calls : t'.calls = t.calls
  /-- The limits are the same. -/
  limits : t'.service.limits = t.service.limits
  /-- Records are ranked in the same way. -/
  ranking : t'.service.ranking = t.service.ranking
  /-- All sources are configured in the same way. -/
  sources : t'.service.registry.adapters.map Adapter.source =
    t.service.registry.adapters.map Adapter.source
  /-- The other adapters are the same. -/
  adapters : ∀ b ∈ t.service.registry.adapters, b.id ≠ id → b ∈ t'.service.registry.adapters
  /-- What the others ask is answered in the same way. -/
  server : ∀ b ∈ t.service.registry.adapters, b.id ≠ id → ∀ q request read,
    b.work q = .exchange request read → t'.server request = t.server request
  /-- The last requests to the others were sent at the same times. -/
  last : ∀ x, x ≠ id → t'.last x = t.last x

variable {id : String} {t t' : Trial} {place : Nat} {c : TimedCall} {b : Adapter} {q : Query}

namespace AgreesBut

theorem gateOf_eq (h : t.AgreesBut id t') (hb : b.id ≠ id) :
    t'.service.gateOf t'.last t'.calls b = t.service.gateOf t.last t.calls b := by
  rw [Service.gateOf, Service.gateOf, h.calls, h.last b.id hb,
    Service.visitors_eq_of_sources h.limits h.sources]

/-- The work of another source is the same. -/
theorem taskOf_eq (h : t.AgreesBut id t') (hmem : b ∈ t.service.registry.adapters)
    (hb : b.id ≠ id) :
    t'.service.taskOf t'.server (t'.service.gates t'.last t'.calls) place c b =
      t.service.taskOf t.server (t.service.gates t.last t.calls) place c b := by
  have hpassage : Service.passage? (t'.service.gates t'.last t'.calls) b place =
      Service.passage? (t.service.gates t.last t.calls) b place := by
    rw [Service.passage?_gates hmem, Service.passage?_gates (h.adapters b hmem hb),
      h.gateOf_eq hb]
  rw [Service.taskOf, Service.taskOf, hpassage, Service.limit, Service.limit, h.limits]
  refine congrArg (Task.mk b.id _) ?_
  cases hwork : b.work c.call.query with
  | inside work => rfl
  | exchange request read =>
    simp only [Service.workFrom, h.server b hmem hb _ request read hwork]

theorem forall₂_reached (h : t.AgreesBut id t') (call : Call) :
    List.Forall₂ Registry.SameSource (t.service.reached call) (t'.service.reached call) := by
  cases hfault : call.fault? with
  | some fault =>
    rw [Service.reached_of_fault hfault, Service.reached_of_fault hfault]
    exact .nil
  | none =>
    rw [Service.reached_of_sound hfault, Service.reached_of_sound hfault]
    exact Registry.forall₂_sameSource.mpr (Registry.map_source_resolve h.sources.symm _)

/-- **What the other sources contribute is the same.** -/
theorem forall₂_entries (h : t.AgreesBut id t') (place : Nat) (c : TimedCall) :
    List.Forall₂ (SameBut id) (t.dispatched place c).entries (t'.dispatched place c).entries := by
  have hreached := List.forall₂_iff_zip.mp (h.forall₂_reached c.call)
  rw [entries_dispatched, entries_dispatched, List.forall₂_map_left_iff,
    List.forall₂_map_right_iff, List.forall₂_iff_zip]
  refine ⟨hreached.1, fun {b b'} hmem => ?_⟩
  have hid : b.id = b'.id := (hreached.2 hmem).id_eq
  refine ⟨hid.symm, fun hb => ?_⟩
  obtain ⟨hb₁, hb₂⟩ := List.of_mem_zip hmem
  have hadapter := Service.mem_adapters_of_mem_reached hb₁
  have heq : b = b' := Registry.eq_of_id_eq (h.adapters b hadapter hb)
    (Service.mem_adapters_of_mem_reached hb₂) hid
  rw [← heq, h.taskOf_eq hadapter hb, h.limits]

end AgreesBut

/-! ### Answers -/

theorem source_of_mem_entries {e : String × Slot} (he : e ∈ (t.dispatched place c).entries) :
    e.2.outcome.source = e.1 := by
  rw [entries_dispatched] at he
  obtain ⟨b, -, rfl⟩ := List.mem_map.mp he
  exact Task.source_settled _ _

/-- A source that failed contributed no records. -/
theorem recordsOf_of_isError
    (h : ∀ o ∈ (t.dispatched place c).outcomes, o.source = id → o.isError = true) :
    (t.dispatched place c).recordsOf id = [] := by
  refine List.eq_nil_iff_forall_not_mem.mpr fun r hr => ?_
  obtain ⟨e, he, hr⟩ := List.mem_flatMap.mp hr
  obtain ⟨he, hid⟩ := List.mem_filter.mp he
  have herror : e.2.outcome.isError = true :=
    h _ (List.mem_map.mpr ⟨e, he, rfl⟩) ((source_of_mem_entries he).trans (eq_of_beq hid))
  rw [entries_dispatched] at he
  obtain ⟨b, -, rfl⟩ := List.mem_map.mp he
  rw [Task.records_settled_of_isError herror] at hr
  exact List.not_mem_nil hr

theorem forall₂_outcomes {d d' : Dispatch} (h : List.Forall₂ (SameBut id) d.entries d'.entries)
    (hsource : ∀ e ∈ d.entries, e.2.outcome.source = e.1)
    (hsource' : ∀ e ∈ d'.entries, e.2.outcome.source = e.1) :
    List.Forall₂ (fun o o' => o'.source = o.source ∧ (o.source ≠ id → o' = o))
      d.outcomes d'.outcomes := by
  have hentries := List.forall₂_iff_zip.mp h
  rw [Dispatch.outcomes, Dispatch.outcomes, List.forall₂_map_left_iff,
    List.forall₂_map_right_iff, List.forall₂_iff_zip]
  refine ⟨hentries.1, fun {e e'} hmem => ?_⟩
  obtain ⟨he, he'⟩ := List.of_mem_zip hmem
  obtain ⟨hid, hsame⟩ := hentries.2 hmem
  rw [hsource e he, hsource' e' he']
  exact ⟨hid, fun hne => by rw [hsame hne]⟩

/-! ### The law -/

/-- What is the same in the answers to a search in two series when a source fails in the second. -/
structure Isolates (id : String) (t t' : Trial) (place : Nat) (c : TimedCall)
    (results results' : ResultSet) : Prop where
  /-- There are outcomes of the same sources, and those of the other sources are the same. -/
  outcomes : List.Forall₂ (fun o o' => o'.source = o.source ∧ (o.source ≠ id → o' = o))
    results.outcomes results'.outcomes
  /-- The first answer is the front of the first ranking. -/
  front : results.records = (t.ranked place c).take t.service.ranking.limit
  /-- The second answer is the front of the second ranking. -/
  front' : results'.records = (t'.ranked place c).take t.service.ranking.limit
  /-- The other sources contribute the same records. -/
  records : ∀ source, source ≠ id →
    (t'.dispatched place c).recordsOf source = (t.dispatched place c).recordsOf source
  /-- The pages of these records are in the second ranking. -/
  present : ∀ source, source ≠ id → ∀ r ∈ (t.dispatched place c).recordsOf source,
    ∀ u ∈ Url.canonicalHref? r.url, u ∈ (t'.ranked place c).map Record.url
  /-- Without the pages that the source contributed in the first series, the rankings are one list
  of records. -/
  ranked : let brought := canonicalUrls ((t.dispatched place c).recordsOf id)
    ((t'.ranked place c).filter fun r => r.url ∉ brought) =
      (t.ranked place c).filter fun r => r.url ∉ brought

/-- **A failing source disturbs no other.** Let two series of calls be the same but for what one
source does, and let all weights be numbers. A search without a fault is answered in both. If the
source fails in the second series, whatever it did in the first one, then all other outcomes are
the same. The second ranking has all pages of the other sources. Both rankings have the same
records with the same scores in the same order, if the pages that the source brought in the first
series are left out. -/
theorem search_isolates_failure (h : t.AgreesBut id t')
    (hw : ∀ source, (t.service.ranking.weight source).isNaN = false)
    (hc : t.calls[place]? = some c) (hq : c.call = .search q) (hsound : q.fault? = none) :
    ∃ results results', t.reply? place = some (.found results) ∧
      t'.reply? place = some (.found results') ∧
      ((∀ o ∈ results'.outcomes, o.source = id → o.isError = true) →
        Isolates id t t' place c results results') := by
  have hc' : t'.calls[place]? = some c := by rw [h.calls, hc]
  refine ⟨_, _, reply?_of_sound hc hq hsound, reply?_of_sound hc' hq hsound, fun hfail => ?_⟩
  have hentries := h.forall₂_entries place c
  have hrecords : ∀ source, source ≠ id →
      (t'.dispatched place c).recordsOf source = (t.dispatched place c).recordsOf source :=
    fun source hs => Dispatch.recordsOf_eq hentries hs
  refine ⟨?_, rfl, ?_, hrecords, ?_, ?_⟩
  · exact forall₂_outcomes hentries (fun e => source_of_mem_entries)
      fun e => source_of_mem_entries
  · rw [← h.ranking]
    rfl
  · intro source hs r hr u hu
    rw [← hrecords source hs] at hr
    obtain ⟨e, he, hr⟩ := List.mem_flatMap.mp hr
    refine (Ranking.mem_map_url_ordered _ _ _).mpr (List.mem_filterMap.mpr ⟨r, ?_, hu⟩)
    exact List.mem_flatMap.mpr ⟨e, (List.mem_filter.mp he).1, hr⟩
  · intro brought
    have hpages : ∀ r ∈ (t.dispatched place c).recordsOf id,
        r.isOnPage (fun u => u ∉ brought) = false := by
      intro r hr
      cases hu : Url.canonicalHref? r.url with
      | none => simp [Record.isOnPage, hu]
      | some u =>
        have hmem : u ∈ brought := List.mem_filterMap.mpr ⟨r, hr, hu⟩
        simp [Record.isOnPage, hu, hmem]
    have hpages' : ∀ r ∈ (t'.dispatched place c).recordsOf id,
        r.isOnPage (fun u => u ∉ brought) = false := by
      intro r hr
      rw [recordsOf_of_isError hfail] at hr
      exact absurd hr List.not_mem_nil
    have hsame := Dispatch.filter_records_eq hentries hpages hpages'
    rw [Trial.ranked, Trial.ranked, h.ranking,
      Ranking.filter_ordered hw fun u => u ∉ brought,
      Ranking.filter_ordered hw fun u => u ∉ brought, hsame]

/-- A source breaks down, and a page that it shared is attributed to another source. -/
theorem search_isolates_failure_crash :
    let source (id : String) := Source.make id .searx (Template.ofUrl "http://1.2.3.4/")
    let record (path : String) := Record.make ("http://1.2.3.4/" ++ path) "" ""
    let a : Adapter := ⟨source "a", fun _ => .inside ⟨some 1, .done [record "1", record "2"]⟩⟩
    let a' : Adapter := ⟨source "a", fun _ => .inside ⟨some 1, .crashed⟩⟩
    let b : Adapter := ⟨source "b", fun _ => .inside ⟨some 2, .done [record "2/", record "3"]⟩⟩
    let r : Registry := ⟨[a, b], by decide⟩
    let r' : Registry := ⟨[a', b], by decide⟩
    let c : TimedCall := ⟨0, .search (Query.ofTerms "x")⟩
    let t : Trial := ⟨Service.ofRegistry r, fun _ => ⟨none, .crashed⟩, fun _ => none, [c]⟩
    let t' : Trial := ⟨Service.ofRegistry r', fun _ => ⟨none, .crashed⟩, fun _ => none, [c]⟩
    t.AgreesBut "a" t' ∧
      (∀ source, (t.service.ranking.weight source).isNaN = false) ∧
      (t.ranked 0 c).map (fun x => (x.url, x.source)) = [("http://1.2.3.4/1", "a"),
        ("http://1.2.3.4/2", "a"), ("http://1.2.3.4/3", "b")] ∧
      (t'.ranked 0 c).map (fun x => (x.url, x.source)) = [("http://1.2.3.4/2", "b"),
        ("http://1.2.3.4/3", "b")] ∧
      ∃ results results', t.reply? 0 = some (.found results) ∧
        t'.reply? 0 = some (.found results') ∧ Isolates "a" t t' 0 c results results' := by
  intro source record a a' b r r' c t t'
  have hagrees : t.AgreesBut "a" t' := by
    refine ⟨rfl, rfl, rfl, rfl, ?_, fun _ _ _ _ _ _ _ => rfl, fun _ _ => rfl⟩
    intro x hx hne
    rcases List.mem_cons.mp hx with rfl | hx
    · exact absurd rfl hne
    · exact List.mem_cons_of_mem a' hx
  have hw : ∀ source, (t.service.ranking.weight source).isNaN = false :=
    Ranking.isNaN_weight (by decide)
  have hranked : (t.ranked 0 c).map (fun x => (x.url, x.source)) = [("http://1.2.3.4/1", "a"),
      ("http://1.2.3.4/2", "a"), ("http://1.2.3.4/3", "b")] := by
    rw [ranked, Dispatch.records, entries_dispatched]
    decide +kernel
  have hranked' : (t'.ranked 0 c).map (fun x => (x.url, x.source)) = [("http://1.2.3.4/2", "b"),
      ("http://1.2.3.4/3", "b")] := by
    rw [ranked, Dispatch.records, entries_dispatched]
    decide +kernel
  have hfail : ∀ o ∈ (t'.dispatched 0 c).outcomes, o.source = "a" → o.isError = true := by
    rw [Dispatch.outcomes, entries_dispatched]
    decide +kernel
  have hc : t.calls[0]? = some c := rfl
  obtain ⟨results, results', hreply, hreply', hlaw⟩ :=
    search_isolates_failure hagrees hw hc rfl (by decide)
  have hresults' : results'.outcomes = (t'.dispatched 0 c).outcomes := by
    have hfound := hreply'.symm.trans (reply?_of_sound (c := c) rfl rfl (by decide))
    simp only [Option.some.injEq, Reply.found.injEq] at hfound
    rw [hfound]
  exact ⟨hagrees, hw, hranked, hranked', results, results', hreply, hreply',
    hlaw (hresults' ▸ hfail)⟩

end Trial
end Metasearch
