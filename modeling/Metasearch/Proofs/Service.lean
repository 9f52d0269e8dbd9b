import Metasearch.Proofs.Dispatch
import Metasearch.Proofs.Ranking
import Metasearch.Proofs.Url.Canonical

/-!
# What a search answers

A search is refused before anything is asked, or it is answered: no source can make it fail. The
answer is told from the adapters that the query reaches and from the work of each of them, however
the work ends.

An adapter's work for a call starts when it has passed its gate, which depends on all calls
together. So the gates are arbitrary here, and what is proved of one call holds of each call in a
series.

## Main definitions

* `Service.outcomeOf`, `Service.delivered`: how an adapter fared in a call, and what it brought.
* `Service.IsAnswer`: what a search has to answer.

## Main results

* `errorLines?_eq_none_iff`, `forall₂_errorLines?`: a line for each failure.
* `search_refused_or_answered`.
-/

namespace Metasearch

open Metasearch.Pacing

/-! ### Failures in words -/

variable {o : Outcome} {outcomes : List Outcome}

/-- Holds of the line that tells of a failure. -/
def Outcome.IsLine (o : Outcome) (line : String) : Prop :=
  ∃ kind cause, o.status = .error kind cause ∧
    line = o.source ++ ": " ++ kind.name ++ ": " ++ cause

theorem errorLine?_of_isError (h : o.isError = true) : ∃ line, o.errorLine? = some line ∧
    o.IsLine line := by
  rw [Outcome.isError, Outcome.failureKind?] at h
  split at h
  · rename_i kind cause hstatus
    refine ⟨_, ?_, kind, cause, hstatus, rfl⟩
    rw [Outcome.errorLine?, hstatus]
  · exact absurd h Bool.false_ne_true

theorem errorLine?_of_not_isError (h : o.isError = false) : o.errorLine? = none := by
  rw [Outcome.isError, Outcome.failureKind?] at h
  rw [Outcome.errorLine?]
  split
  · rename_i kind cause hstatus
    rw [hstatus] at h
    exact absurd h.symm Bool.false_ne_true
  · rfl

theorem forall₂_errorLine? (outcomes : List Outcome) :
    List.Forall₂ Outcome.IsLine (outcomes.filter Outcome.isError)
      (outcomes.filterMap Outcome.errorLine?) := by
  induction outcomes with
  | nil => exact List.Forall₂.nil
  | cons o rest ih =>
    cases h : o.isError with
    | true =>
      obtain ⟨line, hline, hspec⟩ := errorLine?_of_isError h
      rw [List.filter_cons_of_pos h, List.filterMap_cons_some hline]
      exact List.Forall₂.cons hspec ih
    | false =>
      rw [List.filter_cons_of_neg (by rw [h]; exact Bool.false_ne_true),
        List.filterMap_cons_none (errorLine?_of_not_isError h)]
      exact ih

/-- There are no lines only if no source failed. -/
theorem errorLines?_eq_none_iff :
    errorLines? outcomes = none ↔ ∀ o ∈ outcomes, o.isError = false := by
  have hlength := (forall₂_errorLine? outcomes).length_eq
  have hnone : errorLines? outcomes = none ↔ outcomes.filterMap Outcome.errorLine? = [] := by
    rw [errorLines?]
    split
    · rename_i hnil
      exact iff_of_true rfl hnil
    · rename_i hne
      exact iff_of_false (Option.some_ne_none _) hne
  rw [hnone, ← List.length_eq_zero_iff, ← hlength, List.length_eq_zero_iff, List.filter_eq_nil_iff]
  simp only [Bool.not_eq_true]

/-- **There is a line for each failure**, in the order of the sources. -/
theorem forall₂_errorLines? {lines : List String} (h : errorLines? outcomes = some lines) :
    List.Forall₂ Outcome.IsLine (outcomes.filter Outcome.isError) lines := by
  have hlines : outcomes.filterMap Outcome.errorLine? = lines := by
    rw [errorLines?] at h
    split at h
    · exact absurd h (Option.some_ne_none lines).symm
    · exact Option.some.inj h
  rw [← hlines]
  exact forall₂_errorLine? outcomes

/-! ### Searches -/

namespace Service

section

variable (s : Service) (server : Server) (gates : List (String × Gate)) (place : Nat)
  (c : TimedCall)

/-- The task that a call makes of an adapter. -/
def taskOf (a : Adapter) : Task :=
  ⟨a.id, s.limit a, workFrom server c (passage? gates a place) (a.work c.call.query)⟩

/-- How an adapter fared in a call. -/
def outcomeOf (a : Adapter) : Outcome :=
  ((s.taskOf server gates place c a).settled s.limits.deadline).outcome

/-- The records that an adapter brought in a call; none if it did not fare well. -/
def delivered (a : Adapter) : List Record :=
  (s.taskOf server gates place c a).delivered s.limits.deadline

/-- What a search that reaches some adapters has to answer. -/
structure IsAnswer (reached : List Adapter) (results : ResultSet) : Prop where
  /-- There is one outcome for each adapter, in their order. -/
  outcomes : results.outcomes = reached.map (s.outcomeOf server gates place c)
  /-- No two records are one page. -/
  distinct : (results.records.map Record.url).Nodup
  /-- The URLs of the records are canonical. -/
  canonical : ∀ x ∈ results.records, Url.canonicalHref? x.url = some x.url
  /-- The pages are counted that were brought by adapters that fared well. -/
  total : results.total =
    (canonicalUrls (reached.flatMap (s.delivered server gates place c))).dedup.length
  /-- All records are there, up to the limit. -/
  length : results.records.length = min s.ranking.limit results.total
  /-- Each record was brought by an adapter that fared well, and its score is its relevance if
  that is finite, or else the weight of the adapter's source. -/
  origin : ∀ x ∈ results.records, ∃ a ∈ reached,
    (∃ count, (s.outcomeOf server gates place c a).status = .success count) ∧
    ∃ r ∈ s.delivered server gates place c a, Url.canonicalHref? r.url = some x.url ∧
      x = { r with
        url := x.url
        source := a.id
        score := (r.relevance.filter Double.isFinite).getD a.source.weight }
  /-- Nothing is told of failures only if there was none. -/
  silent : results.errors? = none ↔ ∀ o ∈ results.outcomes, o.isError = false
  /-- Each failure is told in a line. -/
  errors : ∀ lines ∈ results.errors?,
    List.Forall₂ Outcome.IsLine (results.outcomes.filter Outcome.isError) lines

end

variable {s : Service} {server : Server} {gates : List (String × Gate)} {place : Nat}
  {c : TimedCall}

theorem entries_tasks (deadline : Nat) :
    (dispatch deadline (s.tasks server gates place c)).entries =
      (s.reached c.call).map fun a =>
        (a.id, (s.taskOf server gates place c a).settled deadline) := by
  rw [entries_dispatch, tasks, List.map_map]
  rfl

theorem outcomes_tasks :
    (dispatch s.limits.deadline (s.tasks server gates place c)).outcomes =
      (s.reached c.call).map (s.outcomeOf server gates place c) := by
  rw [Dispatch.outcomes, entries_tasks, List.map_map]
  rfl

theorem records_tasks :
    (dispatch s.limits.deadline (s.tasks server gates place c)).records =
      (s.reached c.call).flatMap fun a =>
        (s.delivered server gates place c a).map fun r => { r with source := a.id } := by
  rw [Dispatch.records, entries_tasks, List.flatMap_map]
  refine congrArg (fun f => (s.reached c.call).flatMap f) (funext fun a => ?_)
  exact Task.records_settled _ _

/-- The id of a source makes no difference to the pages. -/
theorem canonicalUrls_flatMap_source (f : Adapter → List Record) (l : List Adapter) :
    canonicalUrls (l.flatMap fun a => (f a).map fun r => { r with source := a.id }) =
      canonicalUrls (l.flatMap f) := by
  rw [canonicalUrls, canonicalUrls, List.filterMap_flatMap, List.filterMap_flatMap]
  refine congrArg (fun g => l.flatMap g) (funext fun a => ?_)
  rw [List.filterMap_map]
  rfl

/-- **What is answered is an answer.** -/
theorem isAnswer_rank (s : Service) (server : Server) (gates : List (String × Gate))
    (place : Nat) (c : TimedCall)
    (hw : ∀ a ∈ s.reached c.call, s.ranking.weight a.id = a.source.weight) (terms : String)
    (duration : Nat) :
    let d := dispatch s.limits.deadline (s.tasks server gates place c)
    s.IsAnswer server gates place c (s.reached c.call)
      { s.ranking.rank d.records with query := terms, outcomes := d.outcomes, duration } := by
  intro d
  refine ⟨outcomes_tasks, Ranking.nodup_map_url_rank _ _, ?_, ?_, Ranking.length_rank _ _, ?_,
    errorLines?_eq_none_iff, fun _ h => forall₂_errorLines? h⟩
  · intro x hx
    obtain ⟨r, -, hurl, -⟩ := Ranking.mem_rank hx
    exact Url.canonicalHref?_canonicalHref? hurl
  · refine (Ranking.total_rank s.ranking d.records).trans ?_
    rw [records_tasks, canonicalUrls_flatMap_source]
  · -- what was ranked carries the id of its source, and the weight is told by that id
    intro x hx
    obtain ⟨y, hy, hurl, hx⟩ := Ranking.mem_rank hx
    rw [records_tasks] at hy
    obtain ⟨a, ha, hy⟩ := List.mem_flatMap.mp hy
    obtain ⟨r, hr, rfl⟩ := List.mem_map.mp hy
    refine ⟨a, ha, Task.status_of_mem_delivered hr, r, hr, hurl, ?_⟩
    rw [Ranking.score_eq_getD, hw a ha] at hx
    exact hx

theorem source_outcomeOf (s : Service) (a : Adapter) :
    (s.outcomeOf server gates place c a).source = a.id :=
  Task.source_settled _ _

end Service

/-- **A search is refused before anything is asked, or it is answered.** It is refused exactly if
something is wrong with the query. Otherwise each adapter that the query reaches is asked once and
no other one, and there is an answer, whatever the adapters do and in whatever order they are
done. -/
theorem search_refused_or_answered (r : Registry) (t : Settings) (server : Server)
    (gates : List (String × Gate)) (place start : Nat) (q : Query) :
    let s := (Service.ofRegistry r).withSettings t
    let c : TimedCall := ⟨start, .search q⟩
    let served := s.serveCall server gates place c
    match q.fault? with
    | some fault => served.reply = .refused fault ∧ served.asked = [] ∧ served.received = []
    | none =>
      served.asked = (r.resolve q).map Adapter.id ∧ served.asked.Nodup ∧
        (∀ order, CompletesIn (s.tasks server gates place c) order →
          s.reply c.call (report s.limits.deadline (s.tasks server gates place c) order) =
            served.reply) ∧
        ∃ results, served.reply = .found results ∧
          results.outcomes.map Outcome.source = served.asked ∧
          s.IsAnswer server gates place c (r.resolve q) results := by
  intro s c served
  cases hfault : q.fault? with
  | some fault =>
    have hreached : s.reached c.call = [] := Service.reached_of_fault hfault
    refine ⟨?_, ?_, ?_⟩
    · simp only [served, Service.serveCall, Service.reply, c, Call.fault?, hfault]
    · simp only [served, Service.serveCall, hreached, List.map_nil]
    · simp only [served, Service.serveCall, Service.received, hreached, List.filterMap_nil]
  | none =>
    have hreached : s.reached c.call = r.resolve q := Service.reached_of_sound hfault
    have hasked : served.asked = (r.resolve q).map Adapter.id := by
      simp only [served, Service.serveCall, hreached]
    have hw : ∀ a ∈ s.reached c.call, s.ranking.weight a.id = a.source.weight := by
      intro a ha
      exact Service.weight_ofRegistry (Service.mem_adapters_of_mem_reached ha)
    have hanswer := Service.isAnswer_rank s server gates place c hw q.terms
      (dispatch s.limits.deadline (s.tasks server gates place c)).elapsed
    rw [hreached] at hanswer
    refine ⟨hasked, Service.nodup_reached s c.call, ?_, _, ?_, ?_, hanswer⟩
    · intro order horder
      rw [← dispatch_eq_report horder]
      rfl
    · simp only [served, Service.serveCall, Service.reply, c, Call.fault?, hfault]
    · rw [hanswer.outcomes, hasked, List.map_map]
      exact List.map_congr_left fun a _ => Service.source_outcomeOf s a

/-- A source that brings one page twice and one record without a page, one that breaks down, and
one that stalls. -/
theorem search_refused_or_answered_mixed :
    let source (id : String) := Source.make id .searx (Template.ofUrl "http://1.2.3.4/")
    let records := [Record.make "http://1.2.3.4/x/#a" "A" "", Record.make "mailto:b" "B" "",
      Record.make "http://1.2.3.4/x?utm_a=1" "C" ""]
    let a : Adapter := ⟨source "a", fun _ => .inside ⟨some 1, .done records⟩⟩
    let b : Adapter := ⟨source "b", fun _ => .inside ⟨some 0, .crashed⟩⟩
    let c : Adapter := ⟨source "c", fun _ => .inside ⟨none, .done records⟩⟩
    let r : Registry := ⟨[a, b, c], by decide⟩
    let server : Server := fun _ => ⟨none, .crashed⟩
    let s := (Service.ofRegistry r).withSettings Settings.standard
    let call : TimedCall := ⟨0, .search (Query.ofTerms "x")⟩
    let served := s.serveCall server [] 0 call
    let tasks := s.tasks server [] 0 call
    served.asked = ["a", "b", "c"] ∧
      s.reply call.call (report s.limits.deadline tasks (completions tasks)) = served.reply ∧
      ∃ results, served.reply = .found results ∧
        s.IsAnswer server [] 0 call [a, b, c] results ∧
        results.total = 1 ∧
        results.errors? =
          some ["b: ParseError: adapter panicked", "c: TimeoutError: timed out after 10000ms"] := by
  intro source records a b c r server s call served tasks
  have hanswer := search_refused_or_answered r Settings.standard server [] 0 0 (Query.ofTerms "x")
  have hfault : (Query.ofTerms "x").fault? = none := by decide
  simp only [hfault] at hanswer
  obtain ⟨hasked, -, horder, results, hreply, -, hresults⟩ := hanswer
  have hresolve : r.resolve (Query.ofTerms "x") = [a, b, c] := rfl
  rw [hresolve] at hasked hresults
  have htotal : (canonicalUrls ([a, b, c].flatMap (s.delivered server [] 0 call))).dedup.length =
      1 := by decide +kernel
  have herrors : errorLines? ([a, b, c].map (s.outcomeOf server [] 0 call)) =
      some ["b: ParseError: adapter panicked", "c: TimeoutError: timed out after 10000ms"] := by
    decide +kernel
  rw [← hresults.outcomes] at herrors
  exact ⟨hasked, horder _ (completesIn_completions tasks), results, hreply, hresults,
    hresults.total.trans htotal, herrors⟩

end Metasearch
