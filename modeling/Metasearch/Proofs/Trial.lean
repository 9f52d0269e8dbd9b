import Metasearch.Proofs.Service

/-!
# Series of calls

A call is answered among others, by a service that has been called before. A trial holds all of
that, so that two runs can be compared which differ in one thing only: in one source, or in one
call. What is answered depends on what has been dispatched, and on the ranking.

## Main definitions

* `Trial`: a series of calls, and what it meets.
* `Trial.reply?`, `Trial.dispatched`, `Trial.ranked`: what comes of one call.

## Main results

* `Trial.reply?_of_sound`, `Trial.reply?_of_collect`: the answer to a search and to a collection.
-/

namespace Metasearch

open Metasearch.Pacing

/-- A series of calls, and what it meets. -/
structure Trial where
  /-- The service that is called. -/
  service : Service
  /-- What answers its requests. -/
  server : Server
  /-- When the last request to each source was sent before. -/
  last : String → Option Nat
  /-- The calls in the order of their times. -/
  calls : List TimedCall

namespace Trial

/-- What is answered to the call in a place. -/
def reply? (t : Trial) (place : Nat) : Option Reply :=
  (t.service.serve t.server t.last t.calls)[place]?.map Served.reply

/-- What becomes of a call in a place. -/
def dispatched (t : Trial) (place : Nat) (c : TimedCall) : Dispatch :=
  dispatch t.service.limits.deadline
    (t.service.tasks t.server (t.service.gates t.last t.calls) place c)

/-- All records for a call, ranked and not cut. -/
def ranked (t : Trial) (place : Nat) (c : TimedCall) : List Record :=
  t.service.ranking.ordered (t.dispatched place c).records

variable {t : Trial} {place : Nat} {c : TimedCall} {q : Query} {categories : List Category}

theorem entries_dispatched (t : Trial) (place : Nat) (c : TimedCall) :
    (t.dispatched place c).entries = (t.service.reached c.call).map fun b =>
      (b.id, (t.service.taskOf t.server (t.service.gates t.last t.calls) place c b).settled
        t.service.limits.deadline) :=
  Service.entries_tasks _

/-- A search without a fault is answered with the front of its ranking. -/
theorem reply?_of_sound (hc : t.calls[place]? = some c) (hq : c.call = .search q)
    (hsound : q.fault? = none) : t.reply? place = some (.found
      { t.service.ranking.rank (t.dispatched place c).records with
        query := q.terms
        outcomes := (t.dispatched place c).outcomes
        duration := (t.dispatched place c).elapsed }) := by
  rw [reply?, Service.serve, List.getElem?_mapIdx, hc]
  simp only [Option.map_some, Service.serveCall, Service.reply, hq, Call.fault?, hsound]
  rfl

/-- A collection is answered with all that is left when duplicates are left out. -/
theorem reply?_of_collect (hc : t.calls[place]? = some c) (hq : c.call = .collect categories) :
    t.reply? place = some (.collected
      ⟨unique (t.dispatched place c).records, (t.dispatched place c).outcomes⟩) := by
  rw [reply?, Service.serve, List.getElem?_mapIdx, hc]
  simp only [Option.map_some, Service.serveCall, Service.reply, hq, Call.fault?]
  rfl

end Trial
end Metasearch
