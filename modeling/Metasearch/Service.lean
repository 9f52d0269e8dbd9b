import Metasearch.Dispatch
import Metasearch.Pacing.Gate
import Metasearch.Ranking
import Metasearch.Registry
import Metasearch.Settings

/-!
# The service

A service holds a registry, limits and a ranking, and answers calls. A call is a search, which
is ranked and cut, or a collection, which is neither. Calls may overlap in time; all requests to
one source go through that source's gate, whatever call they belong to.

## Main definitions

* `Service`: the parts.
* `Call`, `Reply`: what is asked, and what is answered.
* `Service.visitors`, `Service.gateOf`: who comes to the gate of a source, and what the gate does.
* `Service.serve`: all answers to a series of calls.
* `Session`: a service's clock and the last request to each source, from call to call.
-/

namespace Metasearch

open Metasearch.Pacing

/-- A registry with limits and a ranking. -/
structure Service where
  /-- The adapters. -/
  registry : Registry
  /-- The limits of each call. -/
  limits : Limits
  /-- How records are ranked. -/
  ranking : Ranking

/-- What is asked. -/
inductive Call where
  /-- Records for a query, ranked and cut. -/
  | search (query : Query)
  /-- All records of some categories. -/
  | collect (categories : List Category)

namespace Call

/-- The query that is put to the sources. -/
def query : Call → Query
  | .search q => q
  | .collect categories => Query.ofCategories categories

/-- What is wrong with the call. -/
def fault? : Call → Option QueryFault
  | .search q => q.fault?
  | .collect _ => none

end Call

/-- What is answered. -/
inductive Reply where
  /-- The call was malformed. -/
  | refused (fault : QueryFault)
  /-- The records of a search. -/
  | found (results : ResultSet)
  /-- The records of a collection. -/
  | collected (collection : Collection)

/-- A call at a time. -/
structure TimedCall where
  /-- When the call is made. -/
  start : Nat
  /-- What is asked. -/
  call : Call

/-- A request that a server received. -/
structure Received where
  /-- When. -/
  time : Nat
  /-- The request. -/
  request : Request

/-- All that comes of one call. -/
structure Served where
  /-- What is answered. -/
  reply : Reply
  /-- The ids of the sources that were asked. -/
  asked : List String
  /-- The requests that servers received. -/
  received : List Received
  /-- How long the call took, in milliseconds. -/
  elapsed : Nat

namespace Service

/-- A service with the usual limits; each source counts as its configuration says. -/
def ofRegistry (registry : Registry) : Service where
  registry
  limits := Limits.standard
  ranking :=
    registry.adapters.foldl (fun k a => k.withWeight a.id a.source.weight) Ranking.standard

/-- The service with the limits of settings. -/
def withSettings (s : Service) (settings : Settings) : Service :=
  { s with
    limits := ⟨settings.sourceTimeout, settings.deadline⟩
    ranking := s.ranking.withLimit settings.maxResults }

/-- The adapters that a call reaches; a malformed one reaches none. -/
def reached (s : Service) (c : Call) : List Adapter :=
  match c.fault? with
  | some _ => []
  | none => s.registry.resolve c.query

/-- How long an adapter may take. -/
def limit (s : Service) (a : Adapter) : Nat :=
  s.limits.ofSource a.source

/-- The visitor that a call sends to the gate of a source, if it asks a server there. -/
def visitor? (s : Service) (a : Adapter) (c : TimedCall) : Option Visitor :=
  if (s.reached c.call).any fun b => b.id == a.id then
    match a.work c.call.query with
    | .exchange _ _ => some ⟨c.start, some (c.start + min (s.limit a) s.limits.deadline)⟩
    | .inside _ => none
  else none

/-- The visitors of the gate of a source, known by the places of their calls. -/
def visitorsFrom (s : Service) (a : Adapter) (place : Nat) : List TimedCall → List Ticket
  | [] => []
  | c :: rest =>
    match s.visitor? a c with
    | some v => ⟨place, v⟩ :: s.visitorsFrom a (place + 1) rest
    | none => s.visitorsFrom a (place + 1) rest

/-- The visitors of the gate of a source, known by the places of their calls. -/
def visitors (s : Service) (a : Adapter) (calls : List TimedCall) : List Ticket :=
  s.visitorsFrom a 0 calls

/-- The gate of a source after all calls. A source without a pause lets everyone through at
once. -/
def gateOf (s : Service) (last : String → Option Nat) (calls : List TimedCall) (a : Adapter) :
    Gate :=
  (Gate.ofLast (a.source.pause?.getD 0) (a.source.pause?.bind fun _ => last a.id)).serve
    (s.visitors a calls)

/-- When a call passes the gate of a source. -/
def passage? (gates : List (String × Gate)) (a : Adapter) (place : Nat) : Option Nat :=
  (gates.find? fun g => g.1 == a.id).bind fun g => g.2.passage? place

/-- What an adapter does for a call that passes its gate at a time, or never: the work after the
start of the call. -/
def workFrom (server : Server) (c : TimedCall) (passage : Option Nat) :
    Work → Timed (List Record)
  | .inside work => work
  | .exchange request read =>
    match passage with
    | none => ⟨none, .crashed⟩
    | some t =>
      let reply := server request
      ⟨reply.duration.map fun d => t - c.start + d, reply.ending.andThen read⟩

/-- The tasks of a call. -/
def tasks (s : Service) (server : Server) (gates : List (String × Gate)) (place : Nat)
    (c : TimedCall) : List Task :=
  (s.reached c.call).map fun a =>
    ⟨a.id, s.limit a, workFrom server c (passage? gates a place) (a.work c.call.query)⟩

/-- The requests of a call that reach a server. -/
def received (s : Service) (gates : List (String × Gate)) (place : Nat) (c : TimedCall) :
    List Received :=
  (s.reached c.call).filterMap fun a =>
    match a.work c.call.query with
    | .inside _ => none
    | .exchange request _ => (passage? gates a place).map fun t => ⟨t, request⟩

/-- The answer to a call whose sources have been asked. -/
def reply (s : Service) (c : Call) (d : Dispatch) : Reply :=
  match c.fault?, c with
  | some fault, _ => .refused fault
  | none, .search q =>
    .found { s.ranking.rank d.records with
      query := q.terms, outcomes := d.outcomes, duration := d.elapsed }
  | none, .collect _ => .collected ⟨unique d.records, d.outcomes⟩

/-- All that comes of one call among others, given the gates after all of them. -/
def serveCall (s : Service) (server : Server) (gates : List (String × Gate)) (place : Nat)
    (c : TimedCall) : Served :=
  let d := dispatch s.limits.deadline (s.tasks server gates place c)
  { reply := s.reply c.call d
    asked := (s.reached c.call).map Adapter.id
    received := s.received gates place c
    elapsed := d.elapsed }

/-- The gates of all sources after a series of calls, given in the order of their times. -/
def gates (s : Service) (last : String → Option Nat) (calls : List TimedCall) :
    List (String × Gate) :=
  s.registry.adapters.map fun a => (a.id, s.gateOf last calls a)

/-- All that comes of a series of calls, given in the order of their times; `last` tells when
the last request to each source was sent before. -/
def serve (s : Service) (server : Server) (last : String → Option Nat)
    (calls : List TimedCall) : List Served :=
  let gates := s.gates last calls
  calls.mapIdx fun place c => s.serveCall server gates place c

/-- What is answered to a call that is the only one. -/
def replyTo (s : Service) (server : Server) (c : Call) : Reply :=
  (s.serveCall server (s.gates (fun _ => none) [⟨0, c⟩]) 0 ⟨0, c⟩).reply

end Service

/-- The clock, and the last request to each source. -/
structure Session where
  /-- The time in milliseconds. -/
  now : Nat
  /-- The times of the last requests by the ids of their sources, the latest first. -/
  last : List (String × Nat)

namespace Session

/-- The start of all sessions. -/
def start : Session := ⟨0, []⟩

/-- When the last request to a source was sent. -/
def lastOf (n : Session) (id : String) : Option Nat :=
  (n.last.find? fun l => l.1 == id).map (·.2)

/-- The session some time later. -/
def after (n : Session) (duration : Nat) : Session :=
  { n with now := n.now + duration }

/-- What comes of calls that are all made now, and the session when all are answered. -/
def run (n : Session) (s : Service) (server : Server) (calls : List Call) :
    List Served × Session :=
  let timed := calls.map fun c => ⟨n.now, c⟩
  let served := s.serve server n.lastOf timed
  let sent := (s.gates n.lastOf timed).filterMap fun g => g.2.last.map fun t => (g.1, t)
  (served, ⟨n.now + (served.map Served.elapsed).foldl max 0, sent ++ n.last⟩)

end Session
end Metasearch
