/-!
# A gate that lets one visitor through at a time

Requests to one source keep a least distance in time. Whoever wants to send one comes to a gate,
queues up in the order of arrival, and is let through when the pause since the last passage is
over. Visitors lose patience: one who has not passed by a given time leaves and has no effect.
When a passage and the end of a visitor's patience fall on the same instant, the visitor passes.

The gate is a machine that goes from event to event: an arrival, a passage, a visitor leaving.

## Main definitions

* `Visitor`, `Gate`.
* `Gate.settle`: all events up to a time.
* `Gate.arrive`, `Gate.serve`: one arrival, and a whole line of visitors.
-/

namespace Metasearch.Pacing

/-- One who wants to pass. -/
structure Visitor where
  /-- When the visitor comes. -/
  arrival : Nat
  /-- The last instant at which the visitor would pass; without one there is no hurry. -/
  limit : Option Nat
deriving DecidableEq

namespace Visitor

/-- Holds when the visitor would still pass at a time. -/
def waitsUntil (v : Visitor) (t : Nat) : Bool :=
  match v.limit with
  | some l => t ≤ l
  | none => true

end Visitor

/-- A visitor with a number to be known by. -/
structure Ticket where
  /-- The number. -/
  number : Nat
  /-- The visitor. -/
  visitor : Visitor
deriving DecidableEq

/-- A gate and those who wait before it. -/
structure Gate where
  /-- The least time between two passages. -/
  pause : Nat
  /-- The time of the last passage. -/
  last : Option Nat
  /-- The time of the last event. -/
  now : Nat
  /-- Those who wait; the first one is at the gate. -/
  waiting : List Ticket
  /-- Who passed and when, the latest first. -/
  passed : List (Nat × Nat)

namespace Gate

/-- A gate that was passed at some time before, or never. -/
def ofLast (pause : Nat) (last : Option Nat) : Gate :=
  ⟨pause, last, 0, [], []⟩

/-- When one who is at the gate from `now` on may pass. -/
def openTime (pause : Nat) (last : Option Nat) (now : Nat) : Nat :=
  match last with
  | some t => max now (t + pause)
  | none => now

/-- When the first one who waits may pass. -/
def due (g : Gate) : Nat :=
  openTime g.pause g.last g.now

/-- The earlier of two times, if there are any. -/
def earlier : Option Nat → Option Nat → Option Nat
  | some a, some b => some (min a b)
  | some a, none => some a
  | none, b => b

/-- The first time at which one of those who wait loses patience. -/
def expiry : List Ticket → Option Nat
  | [] => none
  | t :: rest => earlier t.visitor.limit (expiry rest)

/-- The first loss of patience is that of somebody who waits. -/
theorem exists_limit_of_expiry {l : List Ticket} {e : Nat} (h : expiry l = some e) :
    ∃ t ∈ l, t.visitor.limit = some e := by
  induction l generalizing e with
  | nil => simp [expiry] at h
  | cons t rest ih =>
    rw [expiry] at h
    cases hl : t.visitor.limit with
    | none =>
      rw [hl, earlier] at h
      obtain ⟨u, hu, hue⟩ := ih h
      exact ⟨u, List.mem_cons_of_mem _ hu, hue⟩
    | some a =>
      cases hr : expiry rest with
      | none =>
        rw [hl, hr, earlier] at h
        exact ⟨t, List.mem_cons_self, by rw [hl]; exact h⟩
      | some b =>
        rw [hl, hr, earlier] at h
        injection h with h
        rcases Nat.le_total a b with hab | hab
        · rw [Nat.min_eq_left hab] at h
          exact ⟨t, List.mem_cons_self, by rw [hl, h]⟩
        · rw [Nat.min_eq_right hab] at h
          obtain ⟨u, hu, hue⟩ := ih hr
          exact ⟨u, List.mem_cons_of_mem _ hu, by rw [hue, h]⟩

/-- Holds when a time is not after the horizon, if there is one. -/
def within (horizon : Option Nat) (t : Nat) : Bool :=
  match horizon with
  | some h => t ≤ h
  | none => true

/-- Those who are still there after a time at which somebody lost patience. -/
def patient (e : Nat) (l : List Ticket) : List Ticket :=
  l.filter fun t => t.visitor.limit.all (e < ·)

/-- When patience is lost, somebody leaves. -/
theorem length_patient_lt {l : List Ticket} {e : Nat} (h : expiry l = some e) :
    (patient e l).length < l.length := by
  obtain ⟨t, ht, hl⟩ := exists_limit_of_expiry h
  refine Nat.lt_of_le_of_ne (List.length_filter_le _ _) ?_
  intro heq
  have := List.length_filter_eq_length_iff.1 heq t ht
  simp [hl] at this

/-- Whether the first event to come is that somebody leaves before `t`; then at what time. -/
def leaving? (l : List Ticket) (t : Nat) : Option Nat :=
  (expiry l).filter (· < t)

/-- All passages and departures up to a horizon. -/
def settle (horizon : Option Nat) (g : Gate) : Gate :=
  match _hw : g.waiting with
  | [] => g
  | first :: rest =>
    match _hl : leaving? (first :: rest) g.due with
    | some e =>
      if within horizon e then
        settle horizon { g with now := max g.now e, waiting := patient e (first :: rest) }
      else g
    | none =>
      if within horizon g.due then
        settle horizon
          { g with
            last := some g.due, now := g.due, waiting := rest
            passed := (first.number, g.due) :: g.passed }
      else g
termination_by g.waiting.length
decreasing_by
  · rw [_hw]
    exact length_patient_lt (Option.filter_eq_some_iff.1 _hl).1
  · rw [_hw]
    simp

/-- The gate after one more arrival. -/
def arrive (g : Gate) (t : Ticket) : Gate :=
  let g := g.settle (some t.visitor.arrival)
  { g with now := max g.now t.visitor.arrival, waiting := g.waiting ++ [t] }

/-- The gate when all visitors, given in the order of arrival, have passed or left. -/
def serve (g : Gate) (visitors : List Ticket) : Gate :=
  (visitors.foldl arrive g).settle none

/-- When the visitor of a number passed. -/
def passage? (g : Gate) (number : Nat) : Option Nat :=
  (g.passed.find? fun p => p.1 == number).map (·.2)

end Gate
end Metasearch.Pacing
