import Metasearch.Proofs.Pacing.Throttle
import Metasearch.Proofs.Registry
import Metasearch.Service

/-!
# The requests to one source

All requests to one source go through its gate, so their times are passages of that gate, and
`Throttle.isSpaced_of_run` says how these lie. What is left to show is that nothing else sends
requests (`exists_mem_received_iff`), and that the gate of a source knows nothing of the other
sources: who comes to it is told by the configurations of all sources and by what this one does.

From call to call a session remembers the last request to each source. The gate of the next calls
starts from there, which carries the distance over from one series to the next.

## Main definitions

* `Service.requestsOf`, `Service.requestTimes`: the requests to one source in a series of calls.
* `Session.Action`, `Session.history`: the request times of a session in which calls and waits
  follow each other.

## Main results

* `exists_mem_received_iff`: what the servers receive is what the sources send.
* `pairwise_requestTimes`, `pairwise_history`: the distance.
* `requestTimes_eq_of_sources`: the independence.
* `requests_spaced_of_run`: all of it, for any order at the throttle.
-/

namespace Metasearch

open Metasearch.Pacing

namespace Service

variable {s s' : Service} {a : Adapter} {last last' : String → Option Nat}
  {calls : List TimedCall} {c : TimedCall} {m place : Nat}

/-- The request of an adapter for a call, if the adapter asks a server and the call passes. -/
def request? (gates : List (String × Gate)) (place : Nat) (c : TimedCall) (a : Adapter) :
    Option Received :=
  match a.work c.call.query with
  | .inside _ => none
  | .exchange request _ => (passage? gates a place).map fun t => ⟨t, request⟩

theorem received_eq (s : Service) (gates : List (String × Gate)) (place : Nat) (c : TimedCall) :
    s.received gates place c = (s.reached c.call).filterMap (request? gates place c) :=
  rfl

/-- The requests to one source in a series of calls. -/
def requestsOf (s : Service) (last : String → Option Nat) (calls : List TimedCall)
    (a : Adapter) : List Received :=
  calls.zipIdx.flatMap fun p =>
    ((s.reached p.1.call).filter fun b => b.id == a.id).filterMap
      (request? (s.gates last calls) p.2 p.1)

/-- When these requests were received. -/
def requestTimes (s : Service) (last : String → Option Nat) (calls : List TimedCall)
    (a : Adapter) : List Nat :=
  (s.requestsOf last calls a).map Received.time

/-! ### The gate of a source -/

theorem passage?_gates (ha : a ∈ s.registry.adapters) :
    passage? (s.gates last calls) a place = (s.gateOf last calls a).passage? place := by
  rw [passage?, gates, List.find?_map]
  simp only [Function.comp_def, Registry.find?_id ha]
  rfl

theorem mem_passed_of_passage? {g : Gate} {t : Nat} (h : g.passage? place = some t) :
    (place, t) ∈ g.passed := by
  rw [Gate.passage?, Option.map_eq_some_iff] at h
  obtain ⟨⟨number, u⟩, hfind, rfl⟩ := h
  have hnumber : number = place := by simpa using List.find?_some hfind
  exact hnumber ▸ List.mem_of_find?_eq_some hfind

theorem pause?_eq (hm : a.source.minInterval = some m) (hpos : 0 < m) :
    a.source.pause? = some m := by
  rw [Source.pause?, hm]
  exact Option.filter_some_pos (decide_eq_true hpos)

/-- What the gate of a source does is a run of its throttle. -/
theorem run_gateOf (hp : a.source.pause? = some m) (last : String → Option Nat)
    (calls : List TimedCall) :
    Throttle.Run m (Throttle.start (last a.id) (s.visitors a calls))
      (Throttle.ofGate [] (s.gateOf last calls a)) := by
  have h := Throttle.run_serve (Gate.ofLast m (last a.id)) (s.visitors a calls)
  rw [gateOf, hp]
  exact h

theorem isSpaced_gateOf (hp : a.source.pause? = some m) (last : String → Option Nat)
    (calls : List TimedCall) :
    (Throttle.ofGate [] (s.gateOf last calls a)).IsSpaced m (last a.id) :=
  Throttle.isSpaced_of_run (Throttle.isSpaced_start m (last a.id) _) (run_gateOf hp last calls)

/-! ### Who is asked -/

/-- A source is known by its id. -/
theorem any_id_reached_iff (ha : a ∈ s.registry.adapters) {call : Call} :
    ((s.reached call).any fun b => b.id == a.id) = true ↔ a ∈ s.reached call := by
  rw [List.any_eq_true]
  constructor
  · rintro ⟨b, hb, hid⟩
    exact Registry.eq_of_id_eq (mem_adapters_of_mem_reached hb) ha (eq_of_beq hid) ▸ hb
  · exact fun h => ⟨a, h, beq_self_eq_true a.id⟩

theorem find?_reached (ha : a ∈ s.registry.adapters) (call : Call) :
    ((s.reached call).find? fun b => b.id == a.id) =
      if (s.reached call).any fun b => b.id == a.id then some a else none := by
  cases h : (s.reached call).find? fun b => b.id == a.id with
  | none =>
    rw [if_neg]
    simpa using h
  | some b =>
    have hmem := List.mem_of_find?_eq_some h
    have hid := List.find?_some h
    rw [if_pos (List.any_eq_true.mpr ⟨b, hmem, hid⟩),
      Registry.eq_of_id_eq (mem_adapters_of_mem_reached hmem) ha (eq_of_beq hid)]

/-- A call makes one request at most to a source, and only if the source is reached. -/
theorem requestsOf_eq (ha : a ∈ s.registry.adapters) :
    s.requestsOf last calls a = calls.zipIdx.filterMap fun p =>
      if (s.reached p.1.call).any fun b => b.id == a.id then
        request? (s.gates last calls) p.2 p.1 a
      else none := by
  rw [requestsOf, List.filterMap_eq_flatMap_toList]
  congr 1
  funext p
  rw [Registry.filter_id_of_nodup (nodup_reached s p.1.call), find?_reached ha]
  split
  · cases h : request? (s.gates last calls) p.2 p.1 a <;> simp [h]
  · rfl

theorem mem_requestsOf_iff (ha : a ∈ s.registry.adapters) {r : Received} :
    r ∈ s.requestsOf last calls a ↔ ∃ p ∈ calls.zipIdx, a ∈ s.reached p.1.call ∧
      request? (s.gates last calls) p.2 p.1 a = some r := by
  rw [requestsOf_eq ha, List.mem_filterMap]
  simp only [any_id_reached_iff ha, Option.ite_none_right_eq_some]

/-- **Nobody else sends requests.** What the servers receive during a series of calls is what the
sources of the registry send to them. -/
theorem exists_mem_received_iff (server : Server) {r : Received} :
    (∃ out ∈ s.serve server last calls, r ∈ out.received) ↔
      ∃ a ∈ s.registry.adapters, r ∈ s.requestsOf last calls a := by
  have hserved : (∃ out ∈ s.serve server last calls, r ∈ out.received) ↔
      ∃ p ∈ calls.zipIdx, ∃ a ∈ s.reached p.1.call,
        request? (s.gates last calls) p.2 p.1 a = some r := by
    rw [serve, List.mapIdx_eq_zipIdx_map]
    simp only [List.mem_map, exists_exists_and_eq_and, serveCall, received_eq, List.mem_filterMap]
  rw [hserved]
  constructor
  · rintro ⟨p, hp, a, ha, hr⟩
    have hadapter := mem_adapters_of_mem_reached ha
    exact ⟨a, hadapter, (mem_requestsOf_iff hadapter).mpr ⟨p, hp, ha, hr⟩⟩
  · rintro ⟨a, ha, hr⟩
    obtain ⟨p, hp, hreached, hr⟩ := (mem_requestsOf_iff ha).mp hr
    exact ⟨p, hp, a, hreached, hr⟩

theorem mem_passed_of_request? (ha : a ∈ s.registry.adapters) {r : Received}
    (h : request? (s.gates last calls) place c a = some r) :
    (place, r.time) ∈ (s.gateOf last calls a).passed := by
  rw [request?] at h
  split at h
  · exact absurd h (Option.some_ne_none r).symm
  · rw [passage?_gates ha, Option.map_eq_some_iff] at h
    obtain ⟨t, ht, rfl⟩ := h
    exact mem_passed_of_passage? ht

/-! ### Distance -/

theorem mem_times_of_mem_requestTimes (ha : a ∈ s.registry.adapters) {t : Nat}
    (h : t ∈ s.requestTimes last calls a) :
    t ∈ (Throttle.ofGate [] (s.gateOf last calls a)).times := by
  rw [requestTimes] at h
  obtain ⟨r, hr, rfl⟩ := List.mem_map.mp h
  obtain ⟨p, -, -, hp⟩ := (mem_requestsOf_iff ha).mp hr
  exact List.mem_map.mpr ⟨_, mem_passed_of_request? ha hp, rfl⟩

/-- **Requests keep the distance.** Two requests belong to different calls, so they are two
different passages. -/
theorem pairwise_requestTimes (ha : a ∈ s.registry.adapters) (hp : a.source.pause? = some m)
    (last : String → Option Nat) (calls : List TimedCall) :
    (s.requestTimes last calls a).Pairwise (Apart m) := by
  have hpassed : (s.gateOf last calls a).passed.Pairwise fun p q => Apart m p.2 q.2 :=
    List.pairwise_map.mp (isSpaced_gateOf hp last calls).pairwise_times
  have hsymm : Std.Symm fun p q : Nat × Nat => Apart m p.2 q.2 := ⟨fun _ _ h => h.symm⟩
  have hplaces : calls.zipIdx.Pairwise fun p q => p.2 ≠ q.2 := by
    rw [← List.pairwise_map, List.zipIdx_map_snd]
    exact List.nodup_range'
  rw [requestTimes, requestsOf_eq ha, List.pairwise_map, List.pairwise_filterMap]
  refine hplaces.imp ?_
  intro p q hpq r hr u hu
  split at hr
  · split at hu
    · refine hpassed.forall (mem_passed_of_request? ha hr) (mem_passed_of_request? ha hu) ?_
      exact fun heq => hpq (congrArg Prod.fst heq)
    · exact absurd hu (Option.some_ne_none u).symm
  · exact absurd hr (Option.some_ne_none r).symm

/-! ### Independence -/

theorem map_id_reached
    (h : s'.registry.adapters.map Adapter.source = s.registry.adapters.map Adapter.source)
    (call : Call) : (s'.reached call).map Adapter.id = (s.reached call).map Adapter.id := by
  rw [reached, reached]
  split
  · rfl
  · exact Registry.map_id_resolve h _

theorem any_reached
    (h : s'.registry.adapters.map Adapter.source = s.registry.adapters.map Adapter.source)
    (call : Call) (id : String) :
    ((s'.reached call).any fun b => b.id == id) = (s.reached call).any fun b => b.id == id := by
  have hids := congrArg (fun l => l.any fun x => x == id) (map_id_reached h call)
  simpa only [List.any_map, Function.comp_def] using hids

theorem visitors_eq_of_sources (hl : s'.limits = s.limits)
    (h : s'.registry.adapters.map Adapter.source = s.registry.adapters.map Adapter.source)
    (a : Adapter) (calls : List TimedCall) : s'.visitors a calls = s.visitors a calls := by
  have hvisitor : ∀ c, s'.visitor? a c = s.visitor? a c := by
    intro c
    rw [visitor?, visitor?, any_reached h, limit, limit, hl]
  have hfrom : ∀ place, s'.visitorsFrom a place calls = s.visitorsFrom a place calls := by
    induction calls with
    | nil => exact fun _ => rfl
    | cons c rest ih =>
      intro place
      rw [visitorsFrom, visitorsFrom, hvisitor c, ih]
  exact hfrom 0

/-- **Other sources do not matter.** Two services with the same limits and the same configurations
send the same requests to a source that does the same in both. -/
theorem requestTimes_eq_of_sources (hl : s'.limits = s.limits)
    (h : s'.registry.adapters.map Adapter.source = s.registry.adapters.map Adapter.source)
    (ha : a ∈ s.registry.adapters) (ha' : a ∈ s'.registry.adapters)
    (hlast : last' a.id = last a.id) :
    s'.requestTimes last' calls a = s.requestTimes last calls a := by
  have hgate : s'.gateOf last' calls a = s.gateOf last calls a := by
    rw [gateOf, gateOf, visitors_eq_of_sources hl h, hlast]
  have hrequest : ∀ place c, request? (s'.gates last' calls) place c a =
      request? (s.gates last calls) place c a := by
    intro place c
    rw [request?, request?, passage?_gates ha, passage?_gates ha', hgate]
  rw [requestTimes, requestTimes, requestsOf_eq ha, requestsOf_eq ha']
  simp only [hrequest, any_reached h]

/-! ### Who comes to the gate -/

theorem mem_visitorsFrom {k : Ticket} (h : k ∈ s.visitorsFrom a place calls) :
    ∃ i c, k.number = place + i ∧ calls[i]? = some c ∧ s.visitor? a c = some k.visitor := by
  induction calls generalizing place with
  | nil => exact absurd h List.not_mem_nil
  | cons c rest ih =>
    have hrest : k ∈ s.visitorsFrom a (place + 1) rest →
        ∃ i d, k.number = place + i ∧ (c :: rest)[i]? = some d ∧
          s.visitor? a d = some k.visitor := by
      intro hk
      obtain ⟨i, d, hi, hd, hv⟩ := ih hk
      exact ⟨i + 1, d, by omega, hd, hv⟩
    rw [visitorsFrom] at h
    split at h
    · rename_i v hv
      rcases List.mem_cons.mp h with rfl | h
      · exact ⟨0, c, rfl, rfl, hv⟩
      · exact hrest h
    · exact hrest h

theorem visitor?_eq_some (ha : a ∈ s.registry.adapters) {v : Visitor}
    (h : s.visitor? a c = some v) :
    a ∈ s.reached c.call ∧
      v = ⟨c.start, some (c.start + min (s.limit a) s.limits.deadline)⟩ := by
  rw [visitor?] at h
  split at h
  · rename_i hany
    split at h
    · exact ⟨(any_id_reached_iff ha).mp hany, (Option.some.inj h).symm⟩
    · exact absurd h (Option.some_ne_none v).symm
  · exact absurd h (Option.some_ne_none v).symm

/-- Whatever the order at the throttle, only calls that reach a source make requests to it, and
they do so before they give it up. -/
theorem exists_call_of_run (ha : a ∈ s.registry.adapters) {before : Option Nat} {t : Throttle}
    (h : Throttle.Run m (Throttle.start before (s.visitors a calls)) t) {p : Nat × Nat}
    (hp : p ∈ t.passed) :
    ∃ c, calls[p.1]? = some c ∧ a ∈ s.reached c.call ∧ c.start ≤ p.2 ∧
      p.2 ≤ c.start + min (s.limit a) s.limits.deadline := by
  obtain ⟨k, hk, hnumber, harrival, hwaits⟩ :=
    (Throttle.isAmong_of_run (Throttle.isAmong_start before _) h).passed p hp
  obtain ⟨i, c, hi, hc, hv⟩ := mem_visitorsFrom hk
  obtain ⟨hreached, hvisitor⟩ := visitor?_eq_some ha hv
  rw [hvisitor] at harrival hwaits
  refine ⟨c, ?_, hreached, harrival, of_decide_eq_true hwaits⟩
  rw [← hnumber, hi, Nat.zero_add, hc]

end Service

namespace Session

open Service

variable {s : Service} {a : Adapter} {n : Session} {m : Nat}

/-- What may happen in a session. -/
inductive Action where
  /-- Time passes. -/
  | wait (duration : Nat)
  /-- Calls are made together, and all are answered. -/
  | call (server : Server) (calls : List Call)

/-- The session after an action. -/
def act (s : Service) (n : Session) : Action → Session
  | .wait duration => n.after duration
  | .call server calls => (n.run s server calls).2

/-- When an action makes requests to a source. -/
def actionTimes (s : Service) (a : Adapter) (n : Session) : Action → List Nat
  | .wait _ => []
  | .call _ calls => s.requestTimes n.lastOf (calls.map fun c => ⟨n.now, c⟩) a

/-- When the actions of a session make requests to a source. -/
def history (s : Service) (a : Adapter) : Session → List Action → List Nat
  | _, [] => []
  | n, x :: rest => n.actionTimes s a x ++ history s a (n.act s x) rest

/-- What is noted down for adapters of different ids is found again by the id. -/
theorem find?_noted {l : List Adapter} (hn : (l.map Adapter.id).Nodup) (ha : a ∈ l)
    (f : Adapter → Option Nat) :
    ((l.filterMap fun b => (f b).map fun t => (b.id, t)).find? fun p => p.1 == a.id).map (·.2) =
      f a := by
  induction l with
  | nil => exact absurd ha List.not_mem_nil
  | cons b rest ih =>
    rw [List.map_cons, List.nodup_cons] at hn
    rcases List.mem_cons.mp ha with rfl | ha
    · cases hf : f a with
      | some t => simp [hf]
      | none =>
        have hnone : (rest.filterMap fun b => (f b).map fun t => (b.id, t)).find?
            (fun p => p.1 == a.id) = none := by
          rw [List.find?_eq_none]
          intro p hp hid
          obtain ⟨b, hb, hbp⟩ := List.mem_filterMap.mp hp
          obtain ⟨t, -, rfl⟩ := Option.map_eq_some_iff.mp hbp
          exact hn.1 (List.mem_map.mpr ⟨b, hb, eq_of_beq hid⟩)
        rw [List.filterMap_cons_none (by rw [hf]; rfl), hnone]
        rfl
    · have hne : b.id ≠ a.id := fun h => hn.1 (h ▸ List.mem_map.mpr ⟨a, ha, rfl⟩)
      rw [← ih hn.2 ha]
      cases hf : f b with
      | some t => simp [hf, hne]
      | none => simp [hf]

/-- A session remembers the last passage of a gate, or else what it remembered before. -/
theorem lastOf_run (ha : a ∈ s.registry.adapters) (server : Server) (calls : List Call) :
    (n.run s server calls).2.lastOf a.id =
      (s.gateOf n.lastOf (calls.map fun c => ⟨n.now, c⟩) a).last.or (n.lastOf a.id) := by
  rw [lastOf, run, List.find?_append, Option.map_or, gates, List.filterMap_map]
  have hnoted := find?_noted s.registry.distinct ha
    fun b => (s.gateOf n.lastOf (calls.map fun c => ⟨n.now, c⟩) b).last
  rw [← hnoted]
  rfl

/-- **A session keeps the distance**, and it keeps it from the last request that it remembers. -/
theorem pairwise_history (ha : a ∈ s.registry.adapters) (hp : a.source.pause? = some m)
    (n : Session) (actions : List Action) :
    (history s a n actions).Pairwise (Apart m) ∧
      ∀ l ∈ n.lastOf a.id, ∀ t ∈ history s a n actions, l + m ≤ t := by
  induction actions generalizing n with
  | nil => exact ⟨List.Pairwise.nil, fun _ _ t ht => absurd ht List.not_mem_nil⟩
  | cons x rest ih =>
    rw [history]
    obtain ⟨hrest, hafter⟩ := ih (n.act s x)
    cases x with
    | wait d => exact ⟨hrest, hafter⟩
    | call server calls =>
      have hspaced := isSpaced_gateOf (s := s) hp n.lastOf (calls.map fun c => ⟨n.now, c⟩)
      rw [act, lastOf_run ha] at hafter
      -- what was logged before the end of these calls is a pause before all that follows
      have hlog : ∀ u ∈ (Throttle.ofGate [] (s.gateOf n.lastOf
            (calls.map fun c => ⟨n.now, c⟩) a)).log (n.lastOf a.id),
          ∀ t ∈ history s a (n.run s server calls).2 rest, u + m ≤ t := by
        intro u hu t ht
        obtain ⟨l, hl, hul⟩ := hspaced.exists_last hu
        have hlt := hafter l (Option.or_eq_some_iff.mpr (Or.inl hl)) t ht
        omega
      refine ⟨List.pairwise_append.mpr ⟨pairwise_requestTimes ha hp _ _, hrest, ?_⟩, ?_⟩
      · intro u hu t ht
        exact Or.inl (hlog u (List.mem_append_left _ (mem_times_of_mem_requestTimes ha hu)) t ht)
      · intro l hl t ht
        rcases List.mem_append.mp ht with ht | ht
        · exact hspaced.after_before hl (mem_times_of_mem_requestTimes ha ht)
        · exact hlog l (List.mem_append_right _ (Option.mem_toList.mpr hl)) t ht

end Session

/-- **The requests to a source keep their distance.** Let a source ask for a pause. Then, whoever
obtains its throttle when, and whoever leaves when, the requests of any series of calls are no
closer than the pause, and no closer to the last request before the series; only calls that
reach the source make any. The service's own way is one of these, and it keeps the distance over
a whole session; its servers receive what its sources send, and nothing else. What other sources
do makes no difference to the requests. -/
theorem requests_spaced_of_run (s : Service) (a : Adapter) (ha : a ∈ s.registry.adapters) (m : Nat)
    (hm : a.source.minInterval = some m) (hpos : 0 < m) :
    (∀ (last : String → Option Nat) (calls : List TimedCall) (t : Throttle),
      Throttle.Run m (Throttle.start (last a.id) (s.visitors a calls)) t →
      t.times.Pairwise (Apart m) ∧
      (∀ l ∈ last a.id, ∀ u ∈ t.times, l + m ≤ u) ∧
      ∀ p ∈ t.passed, ∃ c, calls[p.1]? = some c ∧ a ∈ s.reached c.call ∧ c.start ≤ p.2 ∧
        p.2 ≤ c.start + min (s.limit a) s.limits.deadline) ∧
    (∀ (last : String → Option Nat) (calls : List TimedCall),
      (∀ server r, (∃ out ∈ s.serve server last calls, r ∈ out.received) ↔
        ∃ b ∈ s.registry.adapters, r ∈ s.requestsOf last calls b) ∧
      (∃ t, Throttle.Run m (Throttle.start (last a.id) (s.visitors a calls)) t ∧
        ∀ u ∈ s.requestTimes last calls a, u ∈ t.times) ∧
      (s.requestTimes last calls a).Pairwise (Apart m)) ∧
    (∀ n actions, (Session.history s a n actions).Pairwise (Apart m)) ∧
    ∀ s' : Service, s'.limits = s.limits →
      s'.registry.adapters.map Adapter.source = s.registry.adapters.map Adapter.source →
      a ∈ s'.registry.adapters →
      ∀ (last last' : String → Option Nat) (calls : List TimedCall), last' a.id = last a.id →
        s'.visitors a calls = s.visitors a calls ∧
        s'.requestTimes last' calls a = s.requestTimes last calls a := by
  have hp : a.source.pause? = some m := Service.pause?_eq hm hpos
  refine ⟨?_, ?_, ?_, ?_⟩
  · intro last calls t hrun
    have hspaced := Throttle.isSpaced_of_run (Throttle.isSpaced_start m (last a.id) _) hrun
    exact ⟨hspaced.pairwise_times, fun l hl u hu => hspaced.after_before hl hu,
      fun p hmem => Service.exists_call_of_run ha hrun hmem⟩
  · intro last calls
    exact ⟨fun server _ => Service.exists_mem_received_iff server,
      ⟨_, Service.run_gateOf hp last calls,
        fun u hu => Service.mem_times_of_mem_requestTimes ha hu⟩,
      Service.pairwise_requestTimes ha hp last calls⟩
  · intro n actions
    exact (Session.pairwise_history ha hp n actions).1
  · intro s' hl hsources ha' last last' calls hlast
    exact ⟨Service.visitors_eq_of_sources hl hsources a calls,
      Service.requestTimes_eq_of_sources hl hsources ha ha' hlast⟩

/-- Two searches at once, and a source with a pause of five. -/
theorem requests_spaced_of_run_pair :
    let source := { Source.make "a" .searx (Template.ofUrl "https://a.example/") with
      minInterval := some 5 }
    let url : Url := ⟨"https".toList, some ⟨[], [], .ipv4 0, none⟩, .segments [[]], none, none⟩
    let a : Adapter := ⟨source, fun _ => .exchange ⟨url, []⟩ fun _ => .ok []⟩
    let s := Service.ofRegistry ⟨[a], List.nodup_singleton _⟩
    let call : TimedCall := ⟨0, .search (Query.ofTerms "x")⟩
    let calls := [call, call]
    a ∈ s.registry.adapters ∧ a.source.minInterval = some 5 ∧
      s.requestTimes (fun _ => none) calls a = [0, 5] ∧
      (s.requestTimes (fun _ => none) calls a).Pairwise (Apart 5) := by
  intro source url a s call calls
  have ha : a ∈ s.registry.adapters := List.mem_singleton.mpr rfl
  have h := requests_spaced_of_run s a ha 5 rfl (by decide)
  refine ⟨ha, rfl, ?_, (h.2.1 (fun _ => none) calls).2.2⟩
  decide +kernel

end Metasearch
