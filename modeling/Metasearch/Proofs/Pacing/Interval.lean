import Metasearch.Adapter.Assembly
import Metasearch.Proofs.Pacing.Requests
import Metasearch.Proofs.Pacing.Schedule
import Metasearch.Proofs.Request

/-!
# Intervals told as durations

In code, the pause of a source and its time limit are told as durations, which count nanoseconds.
What a source remembers of a duration is a number of milliseconds, and one of 64 bits. So it keeps
a duration in full if that is such a number, and not otherwise: the rest of a millisecond is lost,
and with it the whole pause if nothing else is there.

## Two clocks

A throttle does not care what its clock counts. What it keeps is therefore told on a clock that
counts nanoseconds, where no caller comes at a rounded time. A service and its sessions count
milliseconds, and `ApartNanos` compares their times with a duration.

## Where a loss shows

A throttle that keeps too short a pause does no harm as long as nobody is in a hurry. So the bound
has to be met: of two callers who come together, the second one passes exactly one pause after the
first. `Gate.passed_serve_pair` says so, and both the runs of a throttle and the sessions of a
service get their bound from there.

## Main definitions

* `nanosOfMillis`, `IsWholeMillis`: the durations that are kept.
* `Source.KeepsInterval`, `Source.KeepsTimeout`: what the pause and the limit of a source ensure.
* `Service.Awaits`: a call that would wait at the gate of a source.

## Main results

* `Throttle.pairwise_times_iff`: a throttle keeps its pause and no longer one.
* `Source.keepsInterval_iff`: a source keeps what its pause is.
* `Session.history_pair`: two calls at once are one pause apart.
* `Source.keepsInterval_withMinInterval_iff`.
-/

namespace Metasearch

open Metasearch.Pacing

/-! ### Durations -/

/-- The nanoseconds in a number of milliseconds. -/
def nanosOfMillis (millis : Nat) : Nat := millis * 1000000

/-- Holds of a duration in nanoseconds that is a number of milliseconds of 64 bits. -/
def IsWholeMillis (nanos : Nat) : Prop :=
  ∃ millis < Number.count64, nanos = nanosOfMillis millis

/-- Two times in milliseconds that are no closer than a duration in nanoseconds. -/
def ApartNanos (nanos t u : Nat) : Prop :=
  Apart nanos (nanosOfMillis t) (nanosOfMillis u)

variable {nanos pause m t u now : Nat}

/-- What is remembered of a duration is no longer than the duration. -/
theorem nanosOfMillis_wholeMillis_le (nanos : Nat) :
    nanosOfMillis (Source.wholeMillis nanos) ≤ nanos := by
  have := Nat.mod_le (nanos / 1000000) Number.count64
  rw [nanosOfMillis, Source.wholeMillis]
  omega

/-- Unless there are too many milliseconds, less than one of them is forgotten. -/
theorem lt_nanosOfMillis_wholeMillis (h : nanos < nanosOfMillis Number.count64) :
    nanos < nanosOfMillis (Source.wholeMillis nanos + 1) := by
  have hfits : nanos / 1000000 < Number.count64 := (Nat.div_lt_iff_lt_mul (by decide)).mpr h
  simp only [nanosOfMillis, Source.wholeMillis, Nat.mod_eq_of_lt hfits]
  omega

theorem wholeMillis_nanosOfMillis (h : m < Number.count64) :
    Source.wholeMillis (nanosOfMillis m) = m := by
  rw [Source.wholeMillis, nanosOfMillis, Nat.mul_div_cancel m (by decide), Nat.mod_eq_of_lt h]

/-- Nothing is forgotten of whole milliseconds, and of those alone. -/
theorem le_nanosOfMillis_wholeMillis_iff :
    nanos ≤ nanosOfMillis (Source.wholeMillis nanos) ↔ IsWholeMillis nanos := by
  constructor
  · intro h
    exact ⟨Source.wholeMillis nanos, Nat.mod_lt _ (by decide),
      Nat.le_antisymm h (nanosOfMillis_wholeMillis_le nanos)⟩
  · rintro ⟨millis, hlt, rfl⟩
    rw [wholeMillis_nanosOfMillis hlt]

instance (nanos : Nat) : Decidable (IsWholeMillis nanos) :=
  decidable_of_iff _ le_nanosOfMillis_wholeMillis_iff

theorem apartNanos_of_apart (h : Apart m t u) (hle : nanos ≤ nanosOfMillis m) :
    ApartNanos nanos t u := by
  simp only [ApartNanos, Apart, nanosOfMillis] at h hle ⊢
  omega

theorem apartNanos_add_iff : ApartNanos nanos t (t + m) ↔ nanos ≤ nanosOfMillis m := by
  simp only [ApartNanos, Apart, nanosOfMillis]
  omega

/-! ### Two who come together -/

namespace Pacing

variable {last : Option Nat} {a b : Ticket}

/-- Let two visitors come together when the pause is over, and let the second one have the patience
for another pause. Then the first one passes at once and the second one a pause later. -/
theorem Gate.passed_serve_pair (ha : a.visitor.arrival = now) (hb : b.visitor.arrival = now)
    (hlast : ∀ l ∈ last, l + pause ≤ now) (hwa : a.visitor.waitsUntil now)
    (hwb : b.visitor.waitsUntil (now + pause)) :
    ((Gate.ofLast pause last).serve [a, b]).passed.reverse =
      [(a.number, now), (b.number, now + pause)] := by
  have hopen : Gate.openTime pause last now = now := by
    cases last with
    | none => rfl
    | some l => exact Nat.max_eq_left (hlast l rfl)
  have hfirst : passageAfter pause last a.visitor = some now := by
    rw [passageAfter_of_waitsUntil (by rw [ha, hopen]; exact hwa), ha, hopen]
  have hsecond : passageAfter pause (some now) b.visitor = some (now + pause) := by
    have hclosed : Gate.openTime pause (some now) b.visitor.arrival = now + pause :=
      Gate.openTime_of_le (Nat.le_of_eq hb)
    rw [passageAfter_of_waitsUntil (by rw [hclosed]; exact hwb), hclosed]
  have hsorted : [a, b].Pairwise fun x y => x.visitor.arrival ≤ y.visitor.arrival :=
    List.pairwise_pair.mpr (Nat.le_of_eq (ha.trans hb.symm))
  rw [Gate.passed_serve pause last hsorted, passages_cons_of_some hfirst,
    passages_cons_of_some hsecond]
  rfl

namespace Throttle

/-- Two callers who come together may pass exactly one pause apart. -/
theorem exists_run_pair (pause : Nat) :
    ∃ callers t, Run pause (start none callers) t ∧ t.times = [pause, 0] := by
  let callers : List Ticket := [⟨0, 0, none⟩, ⟨1, 0, none⟩]
  let gate := (Gate.ofLast pause none).serve callers
  have hpassed : gate.passed.reverse = [(0, 0), (1, 0 + pause)] :=
    Gate.passed_serve_pair rfl rfl (fun l hl => absurd hl (Option.not_mem_none l)) rfl rfl
  refine ⟨callers, ofGate [] gate, run_serve (Gate.ofLast pause none) callers, ?_⟩
  have htimes : (ofGate [] gate).times.reverse = [0, 0 + pause] := by
    rw [times, ← List.map_reverse]
    exact congrArg (List.map Prod.snd) hpassed
  rw [← List.reverse_reverse (ofGate [] gate).times, htimes, Nat.zero_add]
  rfl

/-- **A throttle keeps its pause and no longer one**, whoever comes. -/
theorem pairwise_times_iff :
    (∀ callers t, Run pause (start none callers) t → t.times.Pairwise (Apart nanos)) ↔
      nanos ≤ pause := by
  constructor
  · intro h
    obtain ⟨callers, t, hrun, htimes⟩ := exists_run_pair pause
    have hapart := h callers t hrun
    rw [htimes, List.pairwise_pair] at hapart
    rcases hapart with h | h <;> omega
  · intro hle callers t hrun
    have hspaced := isSpaced_of_run (isSpaced_start pause none callers) hrun
    exact hspaced.pairwise_times.imp fun hapart => hapart.mono hle

end Throttle
end Pacing

/-! ### What a source keeps -/

namespace Source

variable {source : Source}

/-- What it means to keep an interval, told in nanoseconds. -/
structure KeepsInterval (source : Source) (nanos : Nat) : Prop where
  /-- There is a pause at all. -/
  paced : source.pause? ≠ none
  /-- No two who pass the throttle of the source are closer, whoever obtains it when and whoever
  leaves when. -/
  spaced : ∀ callers t,
    Throttle.Run (nanosOfMillis (source.pause?.getD 0)) (Throttle.start none callers) t →
      t.times.Pairwise (Apart nanos)
  /-- No two requests of calls that may overlap are closer. -/
  served : ∀ (s : Service) (a : Adapter), a ∈ s.registry.adapters → a.source = source →
    ∀ last calls, (s.requestTimes last calls a).Pairwise (ApartNanos nanos)
  /-- No two requests of a session are closer. -/
  remembered : ∀ (s : Service) (a : Adapter), a ∈ s.registry.adapters → a.source = source →
    ∀ n actions, (Session.history s a n actions).Pairwise (ApartNanos nanos)

/-- What it means to keep a time limit, told in nanoseconds. -/
def KeepsTimeout (source : Source) (nanos : Nat) : Prop :=
  ∀ limits : Limits, nanos ≤ nanosOfMillis (limits.ofSource source)

/-- **A source keeps what its pause is.** -/
theorem keepsInterval_iff :
    source.KeepsInterval nanos ↔ ∃ m, source.pause? = some m ∧ nanos ≤ nanosOfMillis m := by
  constructor
  · intro h
    have hle := Throttle.pairwise_times_iff.mp h.spaced
    obtain ⟨m, hm⟩ := Option.ne_none_iff_exists'.mp h.paced
    rw [hm] at hle
    exact ⟨m, hm, hle⟩
  · rintro ⟨m, hm, hle⟩
    refine ⟨by rw [hm]; exact Option.some_ne_none m, ?_, ?_, ?_⟩
    · rw [hm]
      exact Throttle.pairwise_times_iff.mpr hle
    · intro s a ha hsource last calls
      refine (Service.pairwise_requestTimes ha (hsource ▸ hm) last calls).imp ?_
      exact fun hapart => apartNanos_of_apart hapart hle
    · intro s a ha hsource n actions
      refine (Session.pairwise_history ha (hsource ▸ hm) n actions).1.imp ?_
      exact fun hapart => apartNanos_of_apart hapart hle

theorem pause?_withMinInterval (source : Source) (nanos : Nat) :
    (source.withMinInterval nanos).pause? =
      if wholeMillis nanos = 0 then none else some (wholeMillis nanos) := by
  rw [pause?, withMinInterval, Option.filter_some]
  simp only [decide_eq_true_eq, Nat.pos_iff_ne_zero, ite_not]

/-- Past the last number of 64 bits, milliseconds are counted from zero again. -/
example : (Catalog.bing.withMinInterval (nanosOfMillis (Number.count64 + 1))).pause? = some 1 := by
  decide

theorem getD_pause?_withMinInterval (source : Source) (nanos : Nat) :
    (source.withMinInterval nanos).pause?.getD 0 = wholeMillis nanos := by
  rw [pause?_withMinInterval]
  split
  · rename_i h
    exact h.symm
  · rfl

/-- An interval is kept up to what is remembered of it. -/
theorem keepsInterval_withMinInterval {d : Nat} (hpos : 0 < d) :
    (source.withMinInterval nanos).KeepsInterval d ↔ d ≤ nanosOfMillis (wholeMillis nanos) := by
  rw [keepsInterval_iff, pause?_withMinInterval]
  constructor
  · rintro ⟨m, hm, hle⟩
    obtain ⟨-, hm⟩ := Option.ite_none_left_eq_some.mp hm
    rwa [Option.some.inj hm]
  · intro hle
    have hne : wholeMillis nanos ≠ 0 := by
      intro h
      rw [h, nanosOfMillis] at hle
      omega
    exact ⟨wholeMillis nanos, if_neg hne, hle⟩

theorem keepsTimeout_withTimeout {d : Nat} :
    (source.withTimeout nanos).KeepsTimeout d ↔ d ≤ nanosOfMillis (wholeMillis nanos) :=
  ⟨fun h => h Limits.standard, fun h _ => h⟩

end Source

/-! ### Two calls at once -/

variable {s : Service} {a : Adapter} {c : Call} {last : String → Option Nat}

/-- Holds of a call that asks a server through an adapter and would wait for a pause there. -/
structure Service.Awaits (s : Service) (a : Adapter) (c : Call) (pause : Nat) : Prop where
  /-- The call reaches the adapter. -/
  reached : a ∈ s.reached c
  /-- The adapter asks a server. -/
  asks : ∃ request read, a.work c.query = .exchange request read
  /-- Nobody gives up before the pause is over. -/
  patient : pause ≤ min (s.limit a) s.limits.deadline

namespace Service

/-- The adapter of a configured source asks a server whenever it can tell what. -/
theorem awaits_ofReader {source : Source}
    {read : Request → String → Except Failure (List Record)}
    (hreached : Adapter.ofReader source read ∈ s.reached c)
    (hrequest : (source.requestFor c.query).toOption.isSome = true)
    (hpause : pause ≤ min (s.limits.ofSource source) s.limits.deadline) :
    s.Awaits (Adapter.ofReader source read) c pause := by
  obtain ⟨r, hr⟩ := Source.exists_of_isSome_requestFor hrequest
  exact ⟨hreached, ⟨r, read r, Adapter.work_ofReader hr⟩, hpause⟩

theorem Awaits.any_reached (h : s.Awaits a c pause) :
    ((s.reached c).any fun b => b.id == a.id) = true :=
  List.any_eq_true.mpr ⟨a, h.reached, beq_self_eq_true a.id⟩

theorem Awaits.visitor?_eq (h : s.Awaits a c pause) (now : Nat) :
    s.visitor? a ⟨now, c⟩ = some ⟨now, some (now + min (s.limit a) s.limits.deadline)⟩ := by
  obtain ⟨request, read, hwork⟩ := h.asks
  rw [visitor?, if_pos h.any_reached]
  simp only [hwork]

/-- Who passes at the gate of a source when two calls come together. -/
theorem Awaits.passed_gateOf_pair (h : s.Awaits a c (a.source.pause?.getD 0))
    (hlast : ∀ l ∈ last a.id, l + a.source.pause?.getD 0 ≤ now) :
    (s.gateOf last [⟨now, c⟩, ⟨now, c⟩] a).passed.reverse =
      [(0, now), (1, now + a.source.pause?.getD 0)] := by
  let v : Visitor := ⟨now, some (now + min (s.limit a) s.limits.deadline)⟩
  have hvisitors : s.visitors a [⟨now, c⟩, ⟨now, c⟩] = [⟨0, v⟩, ⟨1, v⟩] := by
    simp only [visitors, visitorsFrom, h.visitor?_eq now, v]
  have hwaits : ∀ d ≤ a.source.pause?.getD 0, v.waitsUntil (now + d) := fun d hd =>
    decide_eq_true (Nat.add_le_add_left (Nat.le_trans hd h.patient) now)
  rw [gateOf, hvisitors]
  refine Gate.passed_serve_pair rfl rfl ?_ (hwaits 0 (Nat.zero_le _)) (hwaits _ (Nat.le_refl _))
  intro l hl
  obtain ⟨-, -, hl⟩ := Option.bind_eq_some_iff.mp hl
  exact hlast l hl

/-- Whoever passes sends the request. -/
theorem request?_of_mem_passed {calls : List TimedCall} {tc : TimedCall} {place : Nat}
    {request : Request} {read : String → Except Failure (List Record)}
    (ha : a ∈ s.registry.adapters) (hwork : a.work tc.call.query = .exchange request read)
    (hn : ((s.gateOf last calls a).passed.map Prod.fst).Nodup)
    (h : (place, t) ∈ (s.gateOf last calls a).passed) :
    request? (s.gates last calls) place tc a = some ⟨t, request⟩ := by
  rw [request?, hwork]
  simp only
  rw [passage?_gates ha, Gate.passage?_of_mem hn h, Option.map_some]

/-- Two calls together send their requests at once and one pause later. -/
theorem Awaits.requestTimes_pair (h : s.Awaits a c (a.source.pause?.getD 0))
    (hlast : ∀ l ∈ last a.id, l + a.source.pause?.getD 0 ≤ now) :
    s.requestTimes last [⟨now, c⟩, ⟨now, c⟩] a = [now, now + a.source.pause?.getD 0] := by
  have ha : a ∈ s.registry.adapters := mem_adapters_of_mem_reached h.reached
  obtain ⟨request, read, hwork⟩ := h.asks
  have hpassed := h.passed_gateOf_pair hlast
  have hn : ((s.gateOf last [⟨now, c⟩, ⟨now, c⟩] a).passed.map Prod.fst).Nodup := by
    rw [← List.nodup_reverse, ← List.map_reverse, hpassed]
    exact (by decide : [0, 1].Nodup)
  have hrequest : ∀ p ∈ [(0, now), (1, now + a.source.pause?.getD 0)],
      request? (s.gates last [⟨now, c⟩, ⟨now, c⟩]) p.1 ⟨now, c⟩ a = some ⟨p.2, request⟩ := by
    intro p hp
    rw [← hpassed, List.mem_reverse] at hp
    exact request?_of_mem_passed ha hwork hn hp
  have hfirst := hrequest (0, now) List.mem_cons_self
  have hsecond := hrequest (1, now + a.source.pause?.getD 0)
    (List.mem_cons_of_mem _ List.mem_cons_self)
  rw [requestTimes, requestsOf_eq ha]
  simp only [List.zipIdx_cons, List.zipIdx_nil, List.filterMap_cons, List.filterMap_nil,
    h.any_reached, if_true, Nat.zero_add, hfirst, hsecond]
  rfl

end Service

/-- **Two calls at once are one pause apart.** -/
theorem Session.history_pair {n : Session} (h : s.Awaits a c (a.source.pause?.getD 0))
    (hlast : ∀ l ∈ n.lastOf a.id, l + a.source.pause?.getD 0 ≤ n.now) (server : Server) :
    Session.history s a n [.call server [c, c]] = [n.now, n.now + a.source.pause?.getD 0] := by
  rw [history, history, List.append_nil]
  exact h.requestTimes_pair hlast

/-- **A duration is kept in full if it is whole milliseconds of 64 bits, and only then**, be it the
least time between two requests or a time limit. What is kept of any other one are the milliseconds
that it remembers, so less than one is lost unless there are too many of them; if none is left there
is no pause. How much is lost can be seen from any two calls that come together when the pause is
over: their requests are sent at once and after the milliseconds that are kept. -/
theorem Source.keepsInterval_withMinInterval_iff (source : Source) (nanos : Nat)
    (hpos : 0 < nanos) :
    let millis := wholeMillis nanos
    let kept := source.withMinInterval nanos
    (kept.KeepsInterval nanos ↔ IsWholeMillis nanos) ∧
    ((source.withTimeout nanos).KeepsTimeout nanos ↔ IsWholeMillis nanos) ∧
    kept.pause? = (if millis = 0 then none else some millis) ∧
    (∀ limits : Limits, limits.ofSource (source.withTimeout nanos) = millis) ∧
    (0 < millis → kept.KeepsInterval (nanosOfMillis millis)) ∧
    nanosOfMillis millis ≤ nanos ∧
    (nanos < nanosOfMillis Number.count64 → nanos < nanosOfMillis (millis + 1)) ∧
    ∀ (s : Service) (a : Adapter) (c : Call) (n : Session) (server : Server), a.source = kept →
      s.Awaits a c millis → (∀ l ∈ n.lastOf a.id, l + millis ≤ n.now) →
      Session.history s a n [.call server [c, c]] = [n.now, n.now + millis] ∧
      ((Session.history s a n [.call server [c, c]]).Pairwise (ApartNanos nanos) ↔
        IsWholeMillis nanos) := by
  intro millis kept
  refine ⟨(keepsInterval_withMinInterval hpos).trans le_nanosOfMillis_wholeMillis_iff,
    keepsTimeout_withTimeout.trans le_nanosOfMillis_wholeMillis_iff,
    pause?_withMinInterval source nanos, fun _ => rfl, ?_, nanosOfMillis_wholeMillis_le nanos,
    lt_nanosOfMillis_wholeMillis, ?_⟩
  · intro hmillis
    have hpos' : 0 < nanosOfMillis millis := Nat.mul_pos hmillis (by decide)
    exact (keepsInterval_withMinInterval hpos').mpr (Nat.le_refl _)
  · intro s a c n server hsource hawaits hover
    have hpause : a.source.pause?.getD 0 = millis := by
      rw [hsource, getD_pause?_withMinInterval]
    have hpair : Session.history s a n [.call server [c, c]] = [n.now, n.now + millis] := by
      rw [← hpause] at hawaits hover ⊢
      exact Session.history_pair hawaits hover server
    refine ⟨hpair, ?_⟩
    rw [hpair, List.pairwise_pair, apartNanos_add_iff]
    exact le_nanosOfMillis_wholeMillis_iff

/-- Of one and a half milliseconds one is kept, and a quarter of a second is kept in full. -/
theorem Source.keepsInterval_withMinInterval_iff_bing :
    let source := Catalog.bing.withMinInterval 1500000
    let a := Adapter.ofReader source fun _ => Answer.readBing source
    let s := Service.ofRegistry ⟨[a], List.nodup_singleton _⟩
    let c : Call := .search (Query.ofTerms "rust")
    Adapter.ofSource source = .ok a ∧ s.Awaits a c 1 ∧
      ¬source.KeepsInterval 1500000 ∧ source.KeepsInterval 1000000 ∧
      (∀ server, Session.history s a Session.start [.call server [c, c]] = [0, 1]) ∧
      (Catalog.bing.withMinInterval 250000000).KeepsInterval 250000000 := by
  intro source a s c
  have hsource : Adapter.ofSource source = .ok a := by
    rw [Adapter.ofSource, (by decide +kernel : source.fault? = none)]
    rfl
  have hawaits : s.Awaits a c 1 :=
    Service.awaits_ofReader (List.mem_singleton.mpr rfl) (by decide +kernel) (by decide)
  obtain ⟨hkeeps, -, -, -, hwhole, -, -, hpair⟩ :=
    Source.keepsInterval_withMinInterval_iff Catalog.bing 1500000 (by decide)
  refine ⟨hsource, hawaits, fun h => absurd (hkeeps.mp h) (by decide), hwhole (by decide), ?_, ?_⟩
  · intro server
    exact (hpair s a c Session.start server rfl hawaits fun l hl =>
      absurd hl (Option.not_mem_none l)).1
  · exact (Source.keepsInterval_withMinInterval_iff Catalog.bing 250000000 (by decide)).1.mpr
      (by decide)

/-- Half a millisecond is no pause and no time at all. -/
theorem Source.not_keepsInterval_half :
    let source := (Catalog.bing.withMinInterval 500000).withTimeout 500000
    let a := Adapter.ofReader source fun _ => Answer.readBing source
    let s := Service.ofRegistry ⟨[a], List.nodup_singleton _⟩
    let c : Call := .search (Query.ofTerms "rust")
    Adapter.ofSource source = .ok a ∧ source.pause? = none ∧ s.limit a = 0 ∧
      (∀ server, Session.history s a Session.start [.call server [c, c]] = [0, 0]) ∧
      ¬source.KeepsInterval 500000 ∧ ¬source.KeepsTimeout 500000 := by
  intro source a s c
  have hsource : Adapter.ofSource source = .ok a := by
    rw [Adapter.ofSource, (by decide +kernel : source.fault? = none)]
    rfl
  have hpause : source.pause? = none := by decide
  have hawaits : s.Awaits a c 0 :=
    Service.awaits_ofReader (List.mem_singleton.mpr rfl) (by decide +kernel) (by decide)
  refine ⟨hsource, hpause, rfl, ?_, fun h => h.paced hpause, ?_⟩
  · intro server
    exact Session.history_pair (n := Session.start) hawaits
      (fun l hl => absurd hl (Option.not_mem_none l)) server
  · intro h
    exact absurd (h Limits.standard) (by decide)

end Metasearch
