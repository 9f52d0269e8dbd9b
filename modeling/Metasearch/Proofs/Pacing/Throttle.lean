import Mathlib.Data.List.Pairwise
import Mathlib.Logic.Relation
import Metasearch.Pacing.Gate

/-!
# A throttle under any order of its callers

`Gate` is a machine with one way to go: first come, first served, and whoever loses patience leaves
at that very instant. Here is the same throttle with all choices left open. Callers may reach it
late, any of those who wait may obtain the lock, and anybody may leave at any time, before or after
obtaining the lock. A step that only waits lets time pass.

## Why this is the right generality

Spacing must not rest on the order in which callers are woken, nor on who is cancelled when. So it
is proved of every run of `Throttle.Step`, where those choices are the adversary's, and the gate
inherits it by `run_serve`: what the gate does is one of these runs.

Spacing is an invariant of one list. `Throttle.log` puts all passages before the one that was there
at the start, the latest first; `Throttle.IsSpaced` says that its members keep their distance and
that its head is what the throttle remembers. Leaving touches neither.

## Main definitions

* `Apart`: two times at a distance.
* `Throttle`, `Throttle.Step`, `Throttle.Run`.
* `Throttle.IsSpaced`, `Throttle.IsAmong`: the invariants.

## Main results

* `isSpaced_of_run`: every run keeps the distance.
* `isAmong_of_run`: those who pass are callers, and they pass within their time.
* `run_serve`: the gate's way is a run.
-/

namespace Metasearch.Pacing

/-- Two times that are no closer than a pause. -/
def Apart (pause t u : Nat) : Prop :=
  t + pause ≤ u ∨ u + pause ≤ t

instance (pause t u : Nat) : Decidable (Apart pause t u) :=
  inferInstanceAs (Decidable (_ ∨ _))

theorem Apart.symm {pause t u : Nat} (h : Apart pause t u) : Apart pause u t :=
  Or.symm h

theorem Apart.mono {pause shorter t u : Nat} (h : Apart pause t u) (hle : shorter ≤ pause) :
    Apart shorter t u :=
  Or.imp (Nat.le_trans (Nat.add_le_add_left hle t)) (Nat.le_trans (Nat.add_le_add_left hle u)) h

/-- A throttle and its callers. -/
structure Throttle where
  /-- The time of the last passage. -/
  last : Option Nat
  /-- The time. -/
  now : Nat
  /-- Those who have not come yet. -/
  coming : List Ticket
  /-- Those who wait for the lock. -/
  waiting : List Ticket
  /-- The one who holds the lock. -/
  holder : Option Ticket
  /-- Who passed and when, the latest first. -/
  passed : List (Nat × Nat)

namespace Throttle

/-- A throttle that was last passed at some time before, or never, and those who are to come. -/
def start (last : Option Nat) (callers : List Ticket) : Throttle :=
  ⟨last, 0, callers, [], none, []⟩

/-- The times of the passages, the latest first. -/
def times (s : Throttle) : List Nat :=
  s.passed.map Prod.snd

/-- One thing that may happen. -/
inductive Step (pause : Nat) : Throttle → Throttle → Prop where
  /-- Time passes. -/
  | tick {s : Throttle} {t : Nat} (h : s.now ≤ t) : Step pause s { s with now := t }
  /-- Somebody comes, at the time of arrival at the earliest. -/
  | arrive {s : Throttle} {k : Ticket} {front back : List Ticket}
      (hc : s.coming = front ++ k :: back) (h : k.visitor.arrival ≤ s.now) :
      Step pause s { s with coming := front ++ back, waiting := s.waiting ++ [k] }
  /-- One of those who wait obtains the lock. -/
  | acquire {s : Throttle} {k : Ticket} {front back : List Ticket}
      (hw : s.waiting = front ++ k :: back) (hh : s.holder = none) :
      Step pause s { s with waiting := front ++ back, holder := some k }
  /-- One of those who wait leaves. -/
  | leave {s : Throttle} {k : Ticket} {front back : List Ticket}
      (hw : s.waiting = front ++ k :: back) : Step pause s { s with waiting := front ++ back }
  /-- The one who holds the lock leaves. -/
  | release {s : Throttle} {k : Ticket} (hh : s.holder = some k) :
      Step pause s { s with holder := none }
  /-- The one who holds the lock passes, the pause being over, and gives the lock back. -/
  | pass {s : Throttle} {k : Ticket} (hh : s.holder = some k)
      (ho : ∀ t ∈ s.last, t + pause ≤ s.now) (hp : k.visitor.waitsUntil s.now) :
      Step pause s { s with
        last := some s.now, holder := none, passed := (k.number, s.now) :: s.passed }

/-- Any number of things that happen one after the other. -/
abbrev Run (pause : Nat) : Throttle → Throttle → Prop :=
  Relation.ReflTransGen (Step pause)

/-! ### Spacing -/

/-- The times of all passages, that before the start included, the latest first. -/
def log (before : Option Nat) (s : Throttle) : List Nat :=
  s.times ++ before.toList

/-- Passages keep their distance, and the throttle remembers the last one. -/
structure IsSpaced (pause : Nat) (before : Option Nat) (s : Throttle) : Prop where
  /-- Each passage is a pause after all earlier ones. -/
  spaced : (s.log before).Pairwise fun later earlier => earlier + pause ≤ later
  /-- The last passage heads the log. -/
  last_eq : s.last = (s.log before).head?

variable {pause : Nat} {before : Option Nat} {s t : Throttle}

theorem isSpaced_start (pause : Nat) (before : Option Nat) (callers : List Ticket) :
    (start before callers).IsSpaced pause before := by
  cases before with
  | none => exact ⟨List.Pairwise.nil, rfl⟩
  | some l => exact ⟨List.pairwise_singleton _ _, rfl⟩

/-- What one step keeps. Only `pass` touches the log, and it adds a time that is a pause after the
head, which is a pause after all others. -/
theorem IsSpaced.step (hs : s.IsSpaced pause before) (h : Step pause s t) :
    t.IsSpaced pause before := by
  cases h with
  | tick | arrive | acquire | leave | release => exact ⟨hs.spaced, hs.last_eq⟩
  | pass hh ho hp =>
    refine ⟨List.pairwise_cons.mpr ⟨?_, hs.spaced⟩, rfl⟩
    intro e he
    change e ∈ s.log before at he
    have hlast := hs.last_eq
    have hsp := hs.spaced
    cases hl : s.log before with
    | nil => simp [hl] at he
    | cons l rest =>
      rw [hl] at he hlast hsp
      have hnow : l + pause ≤ s.now := ho l (by rw [hlast]; rfl)
      rcases List.mem_cons.mp he with rfl | he
      · exact hnow
      · have := (List.pairwise_cons.mp hsp).1 e he
        omega

/-- **Every run keeps the distance**, whoever obtains the lock when, and whoever leaves. -/
theorem isSpaced_of_run (hs : s.IsSpaced pause before) (h : Run pause s t) :
    t.IsSpaced pause before := by
  induction h with
  | refl => exact hs
  | tail _ hstep ih => exact ih.step hstep

theorem IsSpaced.pairwise_times (hs : s.IsSpaced pause before) :
    s.times.Pairwise (Apart pause) :=
  (List.pairwise_append.mp hs.spaced).1.imp Or.inr

theorem IsSpaced.after_before (hs : s.IsSpaced pause before) {l u : Nat} (hl : l ∈ before)
    (hu : u ∈ s.times) : l + pause ≤ u :=
  (List.pairwise_append.mp hs.spaced).2.2 u hu l (Option.mem_toList.mpr hl)

/-- Nothing passes after the last passage. -/
theorem IsSpaced.exists_last (hs : s.IsSpaced pause before) {u : Nat}
    (hu : u ∈ s.log before) : ∃ l ∈ s.last, u ≤ l := by
  rw [hs.last_eq]
  have hsp := hs.spaced
  cases hl : s.log before with
  | nil => simp [hl] at hu
  | cons l rest =>
    rw [hl] at hu hsp
    refine ⟨l, rfl, ?_⟩
    rcases List.mem_cons.mp hu with rfl | hu
    · exact Nat.le_refl u
    · exact Nat.le_trans (Nat.le_add_right _ _) ((List.pairwise_cons.mp hsp).1 u hu)

/-! ### Who passes -/

/-- Everybody there is one of the callers, and none is there before the time of arrival; those who
passed did so within their time. -/
structure IsAmong (callers : List Ticket) (s : Throttle) : Prop where
  /-- Those who are to come. -/
  coming : ∀ k ∈ s.coming, k ∈ callers
  /-- Those who wait. -/
  waiting : ∀ k ∈ s.waiting, k ∈ callers ∧ k.visitor.arrival ≤ s.now
  /-- The one who holds the lock. -/
  holder : ∀ k ∈ s.holder, k ∈ callers ∧ k.visitor.arrival ≤ s.now
  /-- Those who passed. -/
  passed : ∀ p ∈ s.passed, ∃ k ∈ callers,
    k.number = p.1 ∧ k.visitor.arrival ≤ p.2 ∧ k.visitor.waitsUntil p.2

variable {callers : List Ticket}

theorem mem_of_mem_others {u k : Ticket} {front back : List Ticket} (h : u ∈ front ++ back) :
    u ∈ front ++ k :: back :=
  (List.Sublist.append_left (List.sublist_cons_self k back) front).subset h

theorem isAmong_start (before : Option Nat) (callers : List Ticket) :
    (start before callers).IsAmong callers where
  coming _ hk := hk
  waiting _ hk := absurd hk List.not_mem_nil
  holder _ hk := absurd hk (Option.not_mem_none _)
  passed _ hp := absurd hp List.not_mem_nil

theorem IsAmong.step (hs : s.IsAmong callers) (h : Step pause s t) : t.IsAmong callers := by
  obtain ⟨hcoming, hwaiting, hholder, hpassed⟩ := hs
  cases h with
  | tick hle =>
    exact ⟨hcoming, fun k hk => ⟨(hwaiting k hk).1, Nat.le_trans (hwaiting k hk).2 hle⟩,
      fun k hk => ⟨(hholder k hk).1, Nat.le_trans (hholder k hk).2 hle⟩, hpassed⟩
  | @arrive k front back hc ha =>
    rw [hc] at hcoming
    refine ⟨fun u hu => hcoming u (mem_of_mem_others hu), ?_, hholder, hpassed⟩
    intro u hu
    rcases List.mem_append.mp hu with hu | hu
    · exact hwaiting u hu
    · obtain rfl := List.mem_singleton.mp hu
      exact ⟨hcoming u (by simp), ha⟩
  | @acquire k front back hw hh =>
    rw [hw] at hwaiting
    refine ⟨hcoming, fun u hu => hwaiting u (mem_of_mem_others hu), ?_, hpassed⟩
    rintro u hu
    obtain rfl := Option.mem_some.mp hu
    exact hwaiting k (by simp)
  | leave hw =>
    rw [hw] at hwaiting
    exact ⟨hcoming, fun u hu => hwaiting u (mem_of_mem_others hu), hholder, hpassed⟩
  | release hh => exact ⟨hcoming, hwaiting, fun u hu => absurd hu (Option.not_mem_none u), hpassed⟩
  | @pass k hh ho hp =>
    refine ⟨hcoming, hwaiting, fun u hu => absurd hu (Option.not_mem_none u), ?_⟩
    intro p hp'
    rcases List.mem_cons.mp hp' with rfl | hp'
    · obtain ⟨hk, ha⟩ := hholder k hh
      exact ⟨k, hk, rfl, ha, hp⟩
    · exact hpassed p hp'

/-- Nobody passes who did not call, before coming or after losing patience. -/
theorem isAmong_of_run (hs : s.IsAmong callers) (h : Run pause s t) : t.IsAmong callers := by
  induction h with
  | refl => exact hs
  | tail _ hstep ih => exact ih.step hstep

end Throttle

/-! ### Events at a gate -/

namespace Gate

theorem waitsUntil_of_leaving? {k : Ticket} {rest : List Ticket} {t : Nat}
    (h : leaving? (k :: rest) t = none) : k.visitor.waitsUntil t := by
  rw [Visitor.waitsUntil]
  cases hl : k.visitor.limit with
  | none => rfl
  | some l =>
    rw [leaving?, Option.filter_eq_none_iff] at h
    refine decide_eq_true ?_
    have hle : ∃ e, expiry (k :: rest) = some e ∧ e ≤ l := by
      rw [expiry, hl]
      cases expiry rest with
      | none => exact ⟨l, rfl, Nat.le_refl l⟩
      | some b => exact ⟨min l b, rfl, Nat.min_le_left l b⟩
    obtain ⟨e, he, hel⟩ := hle
    have := h e he
    simp at this
    omega

theorem now_le_due (g : Gate) : g.now ≤ g.due := by
  rw [due]
  cases g.last with
  | none => exact Nat.le_refl _
  | some l => exact Nat.le_max_left _ _

theorem add_pause_le_due (g : Gate) {l : Nat} (hl : l ∈ g.last) : l + g.pause ≤ g.due := by
  rw [due, Option.mem_def.mp hl]
  exact Nat.le_max_right _ _

@[simp] theorem pause_settle (horizon : Option Nat) (g : Gate) :
    (g.settle horizon).pause = g.pause := by
  fun_induction settle horizon g with
  | case1 | case3 | case5 => rfl
  | case2 g first rest hw e hl hh ih => exact ih
  | case4 g first rest hw hl hh ih => exact ih

@[simp] theorem pause_arrive (g : Gate) (k : Ticket) : (g.arrive k).pause = g.pause :=
  pause_settle _ g

@[simp] theorem pause_foldl_arrive (g : Gate) (visitors : List Ticket) :
    (visitors.foldl arrive g).pause = g.pause := by
  induction visitors generalizing g with
  | nil => rfl
  | cons k rest ih => rw [List.foldl_cons, ih, pause_arrive]

end Gate

/-! ### The way of the gate -/

namespace Throttle

variable {pause : Nat} {s : Throttle}

/-- A gate as a throttle whose lock nobody holds. -/
def ofGate (coming : List Ticket) (g : Gate) : Throttle :=
  ⟨g.last, g.now, coming, g.waiting, none, g.passed⟩

/-- Time passes at a gate. -/
theorem run_tick {t : Nat} (h : s.now ≤ t) : Run pause s { s with now := t } :=
  Relation.ReflTransGen.single (.tick h)

/-- All who lose patience at once may as well leave one after the other. -/
theorem run_patient (e : Nat) (front l : List Ticket) :
    Run pause { s with waiting := front ++ l } { s with waiting := front ++ Gate.patient e l } := by
  induction l generalizing front with
  | nil => exact .refl
  | cons k rest ih =>
    rw [Gate.patient, List.filter_cons]
    split
    · simpa only [Gate.patient, List.append_assoc, List.singleton_append] using ih (front ++ [k])
    · exact .head (.leave rfl) (ih front)

theorem run_settle (horizon : Option Nat) (g : Gate) (coming : List Ticket) :
    Run g.pause (ofGate coming g) (ofGate coming (g.settle horizon)) := by
  fun_induction Gate.settle horizon g with
  | case1 | case3 | case5 => exact .refl
  | case2 g first rest hw e _ _ ih =>
    refine .trans ?_ ih
    refine .trans (run_tick (t := max g.now e) (Nat.le_max_left _ _)) ?_
    have hleave : Run g.pause { ofGate coming g with now := max g.now e, waiting := first :: rest }
        { ofGate coming g with now := max g.now e, waiting := Gate.patient e (first :: rest) } :=
      run_patient (s := { ofGate coming g with now := max g.now e }) e [] (first :: rest)
    rw [← hw] at hleave ⊢
    exact hleave
  | case4 g first rest hw hl _ ih =>
    refine .trans ?_ ih
    refine .head (.acquire (show g.waiting = [] ++ first :: rest from hw) rfl) ?_
    refine .head (.tick (t := g.due) g.now_le_due) ?_
    refine .single (.pass rfl ?_ (Gate.waitsUntil_of_leaving? hl))
    exact fun t ht => g.add_pause_le_due ht

theorem run_arrive (g : Gate) (k : Ticket) (coming : List Ticket) :
    Run g.pause (ofGate (k :: coming) g) (ofGate coming (g.arrive k)) := by
  refine .trans (run_settle (some k.visitor.arrival) g (k :: coming)) ?_
  refine .head (.tick (t := max (g.settle (some k.visitor.arrival)).now k.visitor.arrival)
    (Nat.le_max_left _ _)) ?_
  exact .single (Step.arrive (k := k) (show _ = [] ++ k :: coming from rfl) (Nat.le_max_right _ _))

theorem run_foldl_arrive (g : Gate) (visitors : List Ticket) :
    Run g.pause (ofGate visitors g) (ofGate [] (visitors.foldl Gate.arrive g)) := by
  induction visitors generalizing g with
  | nil => exact .refl
  | cons k rest ih =>
    refine .trans (run_arrive g k rest) ?_
    simpa using ih (g.arrive k)

/-- **The gate's way is a run**: what a gate does for its visitors may come about. -/
theorem run_serve (g : Gate) (visitors : List Ticket) :
    Run g.pause (ofGate visitors g) (ofGate [] (g.serve visitors)) := by
  refine .trans (run_foldl_arrive g visitors) ?_
  simpa [Gate.serve] using run_settle none (visitors.foldl Gate.arrive g) []

end Throttle
end Metasearch.Pacing
