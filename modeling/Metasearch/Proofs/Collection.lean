import Metasearch.Proofs.Pacing.Requests
import Metasearch.Proofs.Ranking.Order
import Metasearch.Proofs.Registry.Resolution
import Metasearch.Proofs.Trial

/-!
# A search ranks what a collection gathers

There are two ways to ask, and they have nothing in common but the parts that they are made of: a
search is checked, ranked and cut, and a collection is not. When the sources do not care what they
are asked, the two come to the same records, and a search ranks what a collection gathers.

They have to meet the same gates for that. Who comes to a gate is told by whom a call reaches and by
who of these asks a server, so calls that are alike in these two things leave the same gates behind,
whatever else they say.

## Main definitions

* `Work.answer`: what a piece of work shows of itself.
* `Adapter.IsSteady`: an adapter that does not care what it is asked, the page apart.
* `Service.Alike`: two calls that no source can tell apart.

## Main results

* `Trial.dispatched_eq_of_alike`: series of calls that are alike are dispatched alike.
* `search_ranks_collection`.
-/

namespace Metasearch

open Metasearch.Pacing

variable {s : Service} {server : Server} {a : Adapter} {c c' : TimedCall}
  {calls calls' : List TimedCall} {last : String → Option Nat} {place : Nat} {w w' : Work}
  {q : Query} {categories : List Category}

/-! ### Sources that do not care -/

/-- What a piece of work shows of itself: whether it asks a server, and how long it takes from there
and how it ends. -/
def Work.answer (server : Server) : Work → Bool × Timed (List Record)
  | .inside work => (false, work)
  | .exchange request read =>
    (true, ⟨(server request).duration, (server request).ending.andThen read⟩)

/-- Holds of an adapter that does not care what it is asked, the page apart. -/
def Adapter.IsSteady (server : Server) (a : Adapter) : Prop :=
  ∀ q q' : Query, q.page = q'.page → (a.work q).answer server = (a.work q').answer server

namespace Service

/-- Two calls that no source can tell apart. -/
structure Alike (s : Service) (server : Server) (c c' : TimedCall) : Prop where
  /-- They are made at the same time. -/
  start : c.start = c'.start
  /-- They reach the same adapters. -/
  reached : s.reached c.call = s.reached c'.call
  /-- Each adapter does the same for both. -/
  answer : ∀ a ∈ s.registry.adapters,
    (a.work c.call.query).answer server = (a.work c'.call.query).answer server

theorem Alike.refl (s : Service) (server : Server) (c : TimedCall) : s.Alike server c c :=
  ⟨rfl, rfl, fun _ _ => rfl⟩

theorem workFrom_eq_of_answer (h : w.answer server = w'.answer server)
    (hs : c.start = c'.start) (passage : Option Nat) :
    workFrom server c passage w = workFrom server c' passage w' := by
  cases w with
  | inside work =>
    cases w' with
    | inside work' => exact (Prod.mk.inj h).2
    | exchange request' read' => exact absurd (Prod.mk.inj h).1 Bool.false_ne_true
  | exchange request read =>
    cases w' with
    | inside work' => exact absurd (Prod.mk.inj h).1.symm Bool.false_ne_true
    | exchange request' read' =>
      obtain ⟨hduration, hending⟩ := Timed.mk.inj (Prod.mk.inj h).2
      cases passage with
      | none => rfl
      | some t =>
        rw [workFrom, workFrom, hs]
        simp only [hduration, hending]

/-- Whether a call sends a visitor to a gate is told by whether the work asks a server. -/
theorem visitor?_eq_of_answer (s : Service) (server : Server) (a : Adapter) (c : TimedCall) :
    s.visitor? a c =
      if (s.reached c.call).any (fun b => b.id == a.id) &&
          ((a.work c.call.query).answer server).1 then
        some ⟨c.start, some (c.start + min (s.limit a) s.limits.deadline)⟩
      else none := by
  rw [visitor?]
  cases (s.reached c.call).any fun b => b.id == a.id with
  | false => rfl
  | true => cases a.work c.call.query <;> rfl

theorem Alike.visitor?_eq (h : s.Alike server c c') (ha : a ∈ s.registry.adapters) :
    s.visitor? a c = s.visitor? a c' := by
  rw [visitor?_eq_of_answer s server, visitor?_eq_of_answer s server, h.start, h.reached,
    h.answer a ha]

/-- **Calls that are alike leave the same gates behind.** -/
theorem gates_eq_of_alike (h : List.Forall₂ (s.Alike server) calls calls')
    (last : String → Option Nat) : s.gates last calls = s.gates last calls' := by
  rw [gates, gates]
  refine List.map_congr_left fun a ha => ?_
  have hfrom : ∀ place, s.visitorsFrom a place calls = s.visitorsFrom a place calls' := by
    intro place
    induction h generalizing place with
    | nil => rfl
    | cons hc _ ih => rw [visitorsFrom, visitorsFrom, hc.visitor?_eq ha, ih]
  rw [gateOf, gateOf, visitors, visitors, hfrom]

theorem Alike.tasks_eq (h : s.Alike server c c') (gates : List (String × Gate)) (place : Nat) :
    s.tasks server gates place c = s.tasks server gates place c' := by
  rw [tasks, tasks, h.reached]
  refine List.map_congr_left fun a ha => ?_
  rw [workFrom_eq_of_answer (h.answer a (mem_adapters_of_mem_reached ha)) h.start]

end Service

/-- **Series of calls that are alike are dispatched alike.** -/
theorem Trial.dispatched_eq_of_alike (h : List.Forall₂ (s.Alike server) calls calls')
    (hc : s.Alike server c c') (last : String → Option Nat) (place : Nat) :
    Trial.dispatched ⟨s, server, last, calls⟩ place c =
      Trial.dispatched ⟨s, server, last, calls'⟩ place c' := by
  rw [Trial.dispatched, Trial.dispatched]
  show dispatch s.limits.deadline (s.tasks server (s.gates last calls) place c) =
    dispatch s.limits.deadline (s.tasks server (s.gates last calls') place c')
  rw [Service.gates_eq_of_alike h, hc.tasks_eq]

/-! ### Two ways to ask -/

/-- A query for categories reaches what a collection of them reaches, whether the categories have
been settled or not. -/
theorem Registry.resolve_ofCategories (r : Registry) (hs : q.sources = [])
    (hc : q.categories = categories ∨ q.categories = Query.settle categories) :
    r.resolve q = r.resolve (Query.ofCategories categories) := by
  rcases hc with rfl | hc
  · rw [← resolve_settle]
    exact resolve_congr hs rfl
  · refine resolve_congr hs ?_
    rw [Query.effectiveCategories, hc]
    rfl

/-- A search and a collection of one page are alike for sources that do not care. -/
theorem Service.alike_search_collect (hsteady : ∀ a ∈ s.registry.adapters, a.IsSteady server)
    (hsound : q.fault? = none) (hs : q.sources = []) (hp : q.page = 1)
    (hc : q.categories = categories ∨ q.categories = Query.settle categories) (start : Nat) :
    s.Alike server ⟨start, .search q⟩ ⟨start, .collect categories⟩ where
  start := rfl
  reached := by
    have hsearch : s.reached (.search q) = s.registry.resolve q := reached_of_sound hsound
    have hcollect : s.reached (.collect categories) =
        s.registry.resolve (Query.ofCategories categories) := reached_of_sound rfl
    rw [hsearch, hcollect]
    exact s.registry.resolve_ofCategories hs hc
  answer a ha := hsteady a ha _ _ hp

/-- **A search ranks what a collection gathers.** A collection is always answered, though its query
has no terms and would be refused. Let a search be made in its place, with the same categories, no
sources and page 1. If sources do not care what they are asked, and weights are numbers, then the
search has the outcomes of the collection, it counts the collected records, and it is answered with
the front of the one ranking of these records. -/
theorem search_ranks_collection (s : Service) (server : Server) (last : String → Option Nat)
    (before after : List TimedCall) (start : Nat) (categories : List Category) :
    let reply (call : Call) : Option Reply :=
      Trial.reply? ⟨s, server, last, before ++ ⟨start, call⟩ :: after⟩ before.length
    (Query.ofCategories categories).fault? = some .noTerms ∧
      ∃ collection, reply (.collect categories) = some (.collected collection) ∧
        ∀ q : Query, q.fault? = none → q.sources = [] → q.page = 1 →
          (q.categories = categories ∨ q.categories = Query.settle categories) →
          (∀ source, (s.ranking.weight source).isNaN = false) →
          (∀ a ∈ s.registry.adapters, a.IsSteady server) →
          ∃ results ranking, reply (.search q) = some (.found results) ∧
            results.outcomes = collection.outcomes ∧
            results.total = collection.records.length ∧
            (∀ l, IsRanking (collection.records.map s.ranking.scored) l ↔ l = ranking) ∧
            results.records = ranking.take s.ranking.limit := by
  intro reply
  let trial (call : Call) : Trial := ⟨s, server, last, before ++ ⟨start, call⟩ :: after⟩
  have hplace : ∀ call, (trial call).calls[before.length]? = some ⟨start, call⟩ := by
    intro call
    simp [trial]
  refine ⟨rfl, _, Trial.reply?_of_collect (hplace _) rfl, ?_⟩
  intro q hsound hs hp hc hw hsteady
  have halike := Service.alike_search_collect hsteady hsound hs hp hc start
  have hcalls : List.Forall₂ (s.Alike server) (trial (.search q)).calls
      (trial (.collect categories)).calls := by
    have hsame : ∀ l : List TimedCall, List.Forall₂ (s.Alike server) l l := fun l =>
      List.forall₂_same.mpr fun c _ => Service.Alike.refl s server c
    exact List.rel_append (hsame before) (.cons halike (hsame after))
  have hdispatched : (trial (.search q)).dispatched before.length ⟨start, .search q⟩ =
      (trial (.collect categories)).dispatched before.length ⟨start, .collect categories⟩ :=
    Trial.dispatched_eq_of_alike hcalls halike last before.length
  generalize (trial (.collect categories)).dispatched before.length _ = d at hdispatched ⊢
  have hranking := Ranking.isRanking_ordered hw d.records
  refine ⟨_, s.ranking.ordered d.records, Trial.reply?_of_sound (hplace _) rfl hsound, ?_, ?_, ?_,
    ?_⟩
  · rw [hdispatched]
  · rw [hdispatched]
    show (s.ranking.ordered d.records).length = (unique d.records).length
    exact (s.ranking.ordered_perm d.records).length_eq.trans (List.length_map _)
  · intro l
    constructor
    · intro hl
      exact hl.eq_of_isRanking hranking
    · rintro rfl
      exact hranking
  · rw [hdispatched]
    rfl

/-- A source that passes the terms on, comes through a gate and brings a page twice, and one that
fails. The limit cuts the search. -/
theorem search_ranks_collection_paced :
    let url : Url := ⟨"http".toList, some ⟨[], [], .ipv4 0, none⟩, .segments [[]], none, none⟩
    let source (id : String) : Source :=
      { Source.make id .feed (Template.ofUrl "http://1.2.3.4/") with
        categories := [.feeds], minInterval := some 5 }
    let records := [Record.make "http://1.2.3.4/x/" "A" "", Record.make "http://1.2.3.4/y" "B" "",
      Record.make "http://1.2.3.4/x#a" "C" ""]
    let a : Adapter :=
      ⟨source "a", fun q => .exchange ⟨url, [("X-Terms", q.terms)]⟩ fun _ => .ok records⟩
    let b : Adapter := ⟨source "b", fun _ => .inside ⟨some 2, .failed .timeout⟩⟩
    let s := (Service.ofRegistry ⟨[a, b], by decide⟩).withSettings
      { Settings.standard with maxResults := 1 }
    let server : Server := fun _ => ⟨some 3, .done ""⟩
    let categories : List Category := [.feeds, .unknown, .feeds]
    let q := { Query.ofTerms "x" with categories }
    let after : List TimedCall := [⟨7, .search q⟩]
    let reply (call : Call) : Option Reply :=
      Trial.reply? ⟨s, server, fun _ => some 4, [] ++ ⟨6, call⟩ :: after⟩ 0
    q.fault? = none ∧ (∀ source, (s.ranking.weight source).isNaN = false) ∧
      (∀ x ∈ s.registry.adapters, x.IsSteady server) ∧
      ∃ collection results ranking, reply (.collect categories) = some (.collected collection) ∧
        reply (.search q) = some (.found results) ∧
        collection.records.map Record.url = ["http://1.2.3.4/x", "http://1.2.3.4/y"] ∧
        results.outcomes = collection.outcomes ∧
        results.total = 2 ∧
        IsRanking (collection.records.map s.ranking.scored) ranking ∧
        results.records = ranking.take 1 := by
  intro url source records a b s server categories q after reply
  have hsound : q.fault? = none := by decide
  have hw : ∀ source, (s.ranking.weight source).isNaN = false := Ranking.isNaN_weight (by decide)
  have hsteady : ∀ x ∈ s.registry.adapters, x.IsSteady server := by
    intro x hx
    rcases List.mem_cons.mp hx with rfl | hx
    · exact fun _ _ _ => rfl
    · rw [List.mem_singleton.mp hx]
      exact fun _ _ _ => rfl
  obtain ⟨-, collection, hcollect, hsearch⟩ :=
    search_ranks_collection s server (fun _ => some 4) [] after 6 categories
  obtain ⟨results, ranking, hfound, houtcomes, htotal, hranking, hrecords⟩ :=
    hsearch q hsound rfl rfl (Or.inl rfl) hw hsteady
  have hurls : collection.records.map Record.url = ["http://1.2.3.4/x", "http://1.2.3.4/y"] := by
    have heq := hcollect.symm.trans (Trial.reply?_of_collect (c := ⟨6, .collect categories⟩) rfl rfl)
    simp only [Option.some.injEq, Reply.collected.injEq] at heq
    rw [heq, Dispatch.records, Trial.entries_dispatched]
    decide +kernel
  have hlength : collection.records.length = 2 := by
    simpa using congrArg List.length hurls
  exact ⟨hsound, hw, hsteady, collection, results, ranking, hcollect, hfound, hurls, houtcomes,
    htotal.trans hlength, (hranking ranking).mpr rfl, hrecords⟩

end Metasearch
