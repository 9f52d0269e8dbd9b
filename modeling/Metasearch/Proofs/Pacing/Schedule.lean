import Mathlib.Data.List.Nodup
import Metasearch.Pacing.Schedule
import Metasearch.Proofs.Pacing.Throttle

/-!
# The gate keeps to its schedule

A gate goes from event to event, and its schedule goes from visitor to visitor. They agree since two
things never change from one event to the next: `Gate.plan`, which puts those who have passed before
those who are going to, and the fact that the wait of each visitor is owed to the pause alone, so
that coming earlier would not have helped.

The second one is what losing patience needs. When somebody leaves, the next one is at the gate from
a later time on than that of the own arrival, and it makes no difference because the pause is not
over yet.

## Main definitions

* `passages`: who passes and when, as the schedule has it.
* `Gate.plan`: the passages of a gate, those to come included.
* `Gate.IsPrompt`: nobody waits but for the pause.

## Main results

* `passages_of_sublist`: visitors who do not pass leave no trace.
* `Gate.passed_serve`: a gate's passages are those of the schedule.
* `Gate.serve_follows_schedule`.
-/

namespace Metasearch.Pacing

variable {pause e n t u : Nat} {last : Option Nat} {k : Ticket} {l l' rest : List Ticket}

/-! ### When a gate opens -/

namespace Gate

/-- As long as the gate is closed, it does not matter from when on somebody is there. -/
theorem openTime_eq_of_lt (ht : t ≤ u) (hu : u < openTime pause last t) :
    openTime pause last u = openTime pause last t := by
  cases last with
  | none => exact absurd hu (Nat.not_lt.mpr ht)
  | some p =>
    simp only [openTime] at hu ⊢
    omega

/-- After a passage the gate is closed for a pause. -/
theorem openTime_of_le (ht : t ≤ u) : openTime pause (some u) t = u + pause := by
  simp only [openTime]
  omega

end Gate

/-! ### Passages by the schedule -/

theorem passageAfter_eq_some {v : Visitor} (h : passageAfter pause last v = some t) :
    t = Gate.openTime pause last v.arrival ∧ v.waitsUntil t = true := by
  rw [passageAfter] at h
  obtain ⟨hw, ht⟩ := Option.ite_none_right_eq_some.mp h
  obtain rfl := Option.some.inj ht
  exact ⟨rfl, hw⟩

theorem passageAfter_of_waitsUntil {v : Visitor}
    (h : v.waitsUntil (Gate.openTime pause last v.arrival) = true) :
    passageAfter pause last v = some (Gate.openTime pause last v.arrival) :=
  if_pos h

theorem passageAfter_of_not_waitsUntil {v : Visitor}
    (h : v.waitsUntil (Gate.openTime pause last v.arrival) = false) :
    passageAfter pause last v = none :=
  if_neg (by rw [h]; exact Bool.false_ne_true)

/-- Who passes and when, of visitors who come in order after a last passage. -/
def passages (pause : Nat) (last : Option Nat) (l : List Ticket) : List (Nat × Nat) :=
  (l.zip (schedule pause last (l.map Ticket.visitor))).filterMap fun p =>
    p.2.map fun t => (p.1.number, t)

theorem passages_cons_of_some (h : passageAfter pause last k.visitor = some t) :
    passages pause last (k :: l) = (k.number, t) :: passages pause (some t) l := by
  rw [passages, List.map_cons, schedule, h]
  rfl

theorem passages_cons_of_none (h : passageAfter pause last k.visitor = none) :
    passages pause last (k :: l) = passages pause last l := by
  rw [passages, List.map_cons, schedule, h]
  rfl

theorem passages_append (l l' : List Ticket) : passages pause last (l ++ l') =
    passages pause last l ++ passages pause (lastPassage pause last (l.map Ticket.visitor)) l' := by
  induction l generalizing last with
  | nil => rfl
  | cons k l ih =>
    rw [List.cons_append, List.map_cons, lastPassage]
    cases h : passageAfter pause last k.visitor with
    | none => rw [passages_cons_of_none h, passages_cons_of_none h, ih, Option.none_or]
    | some t =>
      rw [passages_cons_of_some h, passages_cons_of_some h, ih, Option.some_or, List.cons_append]

theorem numbers_passages_sublist (pause : Nat) (last : Option Nat) (l : List Ticket) :
    ((passages pause last l).map Prod.fst).Sublist (l.map Ticket.number) := by
  induction l generalizing last with
  | nil => exact .slnil
  | cons k l ih =>
    cases h : passageAfter pause last k.visitor with
    | none =>
      rw [passages_cons_of_none h]
      exact (ih last).cons k.number
    | some t =>
      rw [passages_cons_of_some h]
      exact (ih (some t)).cons_cons k.number

/-- Whether somebody is among those who pass is told by the visitors in front alone. -/
theorem number_mem_passages_iff {front back : List Ticket}
    (hn : ((front ++ k :: back).map Ticket.number).Nodup) :
    k.number ∈ (passages pause last (front ++ k :: back)).map Prod.fst ↔
      passageAfter pause (lastPassage pause last (front.map Ticket.visitor)) k.visitor ≠ none := by
  rw [List.map_append, List.map_cons, List.nodup_middle, List.nodup_cons] at hn
  have hfront : ∀ last, k.number ∉ (passages pause last front).map Prod.fst := fun last hmem =>
    hn.1 (List.mem_append_left _ ((numbers_passages_sublist pause last front).subset hmem))
  have hback : ∀ last, k.number ∉ (passages pause last back).map Prod.fst := fun last hmem =>
    hn.1 (List.mem_append_right _ ((numbers_passages_sublist pause last back).subset hmem))
  rw [passages_append, List.map_append, List.mem_append]
  cases h : passageAfter pause (lastPassage pause last (front.map Ticket.visitor)) k.visitor with
  | none =>
    rw [passages_cons_of_none h]
    exact iff_of_false (fun hmem => hmem.elim (hfront _) (hback _)) (absurd rfl)
  | some t =>
    rw [passages_cons_of_some h]
    exact iff_of_true (Or.inr List.mem_cons_self) (Option.some_ne_none t)

theorem lastPassage_append (pause : Nat) (last : Option Nat) (vs ws : List Visitor) :
    lastPassage pause last (vs ++ ws) = lastPassage pause (lastPassage pause last vs) ws := by
  induction vs generalizing last with
  | nil => rfl
  | cons v vs ih => exact ih ((passageAfter pause last v).or last)

/-- The last passage is the last one of the schedule, or else the one before. -/
theorem lastPassage_eq_head? (pause : Nat) (last : Option Nat) (l : List Ticket) :
    lastPassage pause last (l.map Ticket.visitor) =
      ((passages pause last l).reverse.map Prod.snd ++ last.toList).head? := by
  induction l generalizing last with
  | nil => cases last <;> rfl
  | cons k l ih =>
    rw [List.map_cons, lastPassage]
    cases h : passageAfter pause last k.visitor with
    | none => rw [passages_cons_of_none h, Option.none_or, ih]
    | some t =>
      rw [passages_cons_of_some h, Option.some_or, ih, List.reverse_cons, List.map_append,
        List.append_assoc]
      cases ((passages pause (some t) l).reverse.map Prod.snd) <;> rfl

/-! ### Leaving -/

/-- Those who leave while the gate is closed were not going to pass. -/
theorem passages_patient (he : ∀ k ∈ l, e < Gate.openTime pause last k.visitor.arrival) :
    passages pause last (Gate.patient e l ++ rest) = passages pause last (l ++ rest) := by
  induction l generalizing last with
  | nil => rfl
  | cons k l ih =>
    have hk := he k List.mem_cons_self
    have hl : ∀ j ∈ l, e < Gate.openTime pause last j.visitor.arrival :=
      fun j hj => he j (List.mem_cons_of_mem k hj)
    have hpass : ∀ t, passageAfter pause last k.visitor = some t →
        passages pause (some t) (Gate.patient e l ++ rest) =
          passages pause (some t) (l ++ rest) := by
      intro t ht
      obtain ⟨rfl, -⟩ := passageAfter_eq_some ht
      refine ih fun j _ => ?_
      simp only [Gate.openTime] at hk ⊢
      omega
    rw [Gate.patient, List.filter_cons, ← Gate.patient]
    split
    · rw [List.cons_append, List.cons_append]
      cases h : passageAfter pause last k.visitor with
      | none => rw [passages_cons_of_none h, passages_cons_of_none h, ih hl]
      | some t => rw [passages_cons_of_some h, passages_cons_of_some h, hpass t h]
    · rename_i hleft
      have hnone : passageAfter pause last k.visitor = none := by
        refine passageAfter_of_not_waitsUntil ?_
        rw [Visitor.waitsUntil]
        cases hlimit : k.visitor.limit with
        | none => simp [hlimit] at hleft
        | some limit =>
          simp only [hlimit, Option.all_some, decide_eq_true_eq] at hleft
          exact decide_eq_false (by omega)
      rw [List.cons_append, passages_cons_of_none hnone, ih hl]

/-- **Visitors who do not pass leave no trace**, however many of them stay away. -/
theorem passages_of_sublist (h : l'.Sublist l) (hn : (l.map Ticket.number).Nodup)
    (hl : ∀ k ∈ l, k ∉ l' → k.number ∉ (passages pause last l).map Prod.fst) :
    passages pause last l' = passages pause last l := by
  induction h generalizing last with
  | slnil => rfl
  | @cons l' l k hsub ih =>
    rw [List.map_cons, List.nodup_cons] at hn
    have hk : k ∉ l' := fun hmem => hn.1 (List.mem_map.mpr ⟨k, hsub.subset hmem, rfl⟩)
    have hnone : passageAfter pause last k.visitor = none := by
      cases hp : passageAfter pause last k.visitor with
      | none => rfl
      | some t =>
        refine absurd ?_ (hl k List.mem_cons_self hk)
        rw [passages_cons_of_some hp]
        exact List.mem_cons_self
    rw [passages_cons_of_none hnone] at hl ⊢
    exact ih hn.2 fun j hj => hl j (List.mem_cons_of_mem k hj)
  | @cons_cons l' l k hsub ih =>
    rw [List.map_cons, List.nodup_cons] at hn
    have hne : ∀ j ∈ l, j ∉ l' → j ∉ k :: l' := by
      intro j hj hmem hjk
      rcases List.mem_cons.mp hjk with rfl | hjk
      · exact hn.1 (List.mem_map.mpr ⟨j, hj, rfl⟩)
      · exact hmem hjk
    cases hp : passageAfter pause last k.visitor with
    | none =>
      rw [passages_cons_of_none hp] at hl ⊢
      rw [passages_cons_of_none hp]
      exact ih hn.2 fun j hj hmem => hl j (List.mem_cons_of_mem k hj) (hne j hj hmem)
    | some t =>
      rw [passages_cons_of_some hp] at hl ⊢
      rw [passages_cons_of_some hp]
      refine congrArg _ (ih hn.2 fun j hj hmem hpass => ?_)
      exact hl j (List.mem_cons_of_mem k hj) (hne j hj hmem) (List.mem_cons_of_mem _ hpass)

/-! ### What events keep -/

namespace Gate

variable {g : Gate} {horizon : Option Nat} {a : Nat} {coming : List Ticket}

/-- Who passed at a gate and who is going to, if some more are to come. -/
def plan (g : Gate) (coming : List Ticket) : List (Nat × Nat) :=
  g.passed.reverse ++ passages g.pause g.last (g.waiting ++ coming)

/-- Nobody waits but for the pause. -/
structure IsPrompt (g : Gate) : Prop where
  /-- Those who wait have come. -/
  came : ∀ k ∈ g.waiting, k.visitor.arrival ≤ g.now
  /-- Had one of them been the first since coming, that one would still wait. -/
  due : ∀ k ∈ g.waiting, openTime g.pause g.last k.visitor.arrival = g.due

theorem isPrompt_of_waiting_nil (h : g.waiting = []) : g.IsPrompt := by
  constructor <;> simp [h]

theorem lt_due_of_leaving? {first : Ticket} (h : leaving? (first :: rest) t = some e) : e < t := by
  have := (Option.filter_eq_some_iff.mp h).2
  simpa using this

/-- Somebody leaves while the gate is closed. -/
theorem IsPrompt.leave (hg : g.IsPrompt) (he : e < g.due) :
    IsPrompt { g with now := max g.now e, waiting := patient e g.waiting } ∧
      ∀ coming, plan { g with now := max g.now e, waiting := patient e g.waiting } coming =
        g.plan coming := by
  have hdue : openTime g.pause g.last (max g.now e) = g.due := by
    rcases Nat.le_total e g.now with hle | hle
    · rw [Nat.max_eq_left hle]
      rfl
    · rw [Nat.max_eq_right hle]
      exact openTime_eq_of_lt hle he
  refine ⟨⟨?_, ?_⟩, ?_⟩
  · intro k hk
    exact Nat.le_trans (hg.came k (List.mem_filter.mp hk).1) (Nat.le_max_left _ _)
  · intro k hk
    exact (hg.due k (List.mem_filter.mp hk).1).trans hdue.symm
  · intro coming
    refine congrArg (g.passed.reverse ++ ·) (passages_patient fun k hk => ?_)
    rw [hg.due k hk]
    exact he

/-- The first one who waits passes. -/
theorem IsPrompt.pass {first : Ticket} (hg : g.IsPrompt) (hw : g.waiting = first :: rest)
    (hl : leaving? (first :: rest) g.due = none) :
    IsPrompt { g with
        last := some g.due, now := g.due, waiting := rest
        passed := (first.number, g.due) :: g.passed } ∧
      ∀ coming, plan { g with
        last := some g.due, now := g.due, waiting := rest
        passed := (first.number, g.due) :: g.passed } coming = g.plan coming := by
  have hfirst : first ∈ g.waiting := hw ▸ List.mem_cons_self
  have hcame : ∀ k ∈ rest, k.visitor.arrival ≤ g.due := fun k hk =>
    Nat.le_trans (hg.came k (hw ▸ List.mem_cons_of_mem first hk)) g.now_le_due
  have hpass : passageAfter g.pause g.last first.visitor = some g.due := by
    rw [← hg.due first hfirst]
    refine passageAfter_of_waitsUntil ?_
    rw [hg.due first hfirst]
    exact waitsUntil_of_leaving? hl
  refine ⟨⟨hcame, ?_⟩, ?_⟩
  · intro k hk
    exact (openTime_of_le (hcame k hk)).trans (openTime_of_le (Nat.le_refl _)).symm
  · intro coming
    rw [plan, plan, hw, List.cons_append, passages_cons_of_some hpass, List.reverse_cons,
      List.append_assoc]
    rfl

/-- **Events change neither the plan nor its promptness.** -/
theorem IsPrompt.settle (hg : g.IsPrompt) (horizon : Option Nat) :
    (g.settle horizon).IsPrompt ∧ ∀ coming, (g.settle horizon).plan coming = g.plan coming := by
  fun_induction Gate.settle horizon g with
  | case1 | case3 | case5 => exact ⟨hg, fun _ => rfl⟩
  | case2 g first rest hw e hl hh ih =>
    obtain ⟨hprompt, hplan⟩ := hg.leave (lt_due_of_leaving? hl)
    rw [hw] at hprompt hplan
    obtain ⟨hprompt', hplan'⟩ := ih hprompt
    exact ⟨hprompt', fun coming => (hplan' coming).trans (hplan coming)⟩
  | case4 g first rest hw hl hh ih =>
    obtain ⟨hprompt, hplan⟩ := hg.pass hw hl
    obtain ⟨hprompt', hplan'⟩ := ih hprompt
    exact ⟨hprompt', fun coming => (hplan' coming).trans (hplan coming)⟩

/-- With no end to time, everybody passes or leaves. -/
theorem waiting_settle_none (g : Gate) : (g.settle none).waiting = [] := by
  fun_induction Gate.settle none g with
  | case1 g hw => exact hw
  | case2 g first rest hw e hl hh ih => exact ih
  | case3 g first rest hw e hl hh => exact absurd rfl hh
  | case4 g first rest hw hl hh ih => exact ih
  | case5 g first rest hw hl hh => exact absurd rfl hh

/-- Up to a time, all that happens happens by then, and the gate is closed to those who are left. -/
theorem settle_some (hg : g.now ≤ a) :
    (g.settle (some a)).now ≤ a ∧
      ((g.settle (some a)).waiting ≠ [] → a < (g.settle (some a)).due) := by
  fun_induction Gate.settle (some a) g with
  | case1 g hw => exact ⟨hg, fun h => absurd hw h⟩
  | case2 g first rest hw e hl hin ih => exact ih (Nat.max_le.mpr ⟨hg, of_decide_eq_true hin⟩)
  | case3 g first rest hw e hl hin =>
    have he := lt_due_of_leaving? hl
    simp only [within, decide_eq_true_eq] at hin
    exact ⟨hg, fun _ => by omega⟩
  | case4 g first rest hw hl hin ih => exact ih (of_decide_eq_true hin)
  | case5 g first rest hw hl hin =>
    simp only [within, decide_eq_true_eq] at hin
    exact ⟨hg, fun _ => by omega⟩

/-- Somebody comes. -/
theorem IsPrompt.arrive (hg : g.IsPrompt) (hk : g.now ≤ k.visitor.arrival) :
    (g.arrive k).IsPrompt ∧ (g.arrive k).now = k.visitor.arrival ∧
      ∀ coming, (g.arrive k).plan coming = g.plan (k :: coming) := by
  obtain ⟨hprompt, hplan⟩ := hg.settle (some k.visitor.arrival)
  obtain ⟨hnow, hclosed⟩ := settle_some hk
  have hmax : max (g.settle (some k.visitor.arrival)).now k.visitor.arrival = k.visitor.arrival :=
    Nat.max_eq_right hnow
  refine ⟨⟨?_, ?_⟩, hmax, ?_⟩
  · intro j hj
    rcases List.mem_append.mp hj with hj | hj
    · exact Nat.le_trans (hprompt.came j hj) (Nat.le_max_left _ _)
    · rw [List.mem_singleton.mp hj]
      exact Nat.le_max_right _ _
  · intro j hj
    rw [Gate.arrive, Gate.due]
    simp only [hmax]
    rcases List.mem_append.mp hj with hj | hj
    · rw [hprompt.due j hj]
      exact (openTime_eq_of_lt hnow (hclosed (List.ne_nil_of_mem hj))).symm
    · rw [List.mem_singleton.mp hj]
  · intro coming
    rw [← hplan, plan, plan, Gate.arrive]
    simp only [List.append_assoc, List.singleton_append]

/-- All who come in the order of their arrivals keep the plan. -/
theorem IsPrompt.foldl_arrive (hg : g.IsPrompt)
    (hl : l.Pairwise fun a b => a.visitor.arrival ≤ b.visitor.arrival)
    (hk : ∀ k ∈ l, g.now ≤ k.visitor.arrival) :
    (l.foldl Gate.arrive g).IsPrompt ∧ (l.foldl Gate.arrive g).plan [] = g.plan l := by
  induction l generalizing g with
  | nil => exact ⟨hg, rfl⟩
  | cons k l ih =>
    obtain ⟨hlater, hl⟩ := List.pairwise_cons.mp hl
    obtain ⟨hprompt, hnow, hplan⟩ := hg.arrive (hk k List.mem_cons_self)
    obtain ⟨hprompt', hplan'⟩ := ih hprompt hl fun j hj => hnow ▸ hlater j hj
    exact ⟨hprompt', hplan'.trans (hplan l)⟩

/-! ### The whole line -/

theorem waiting_serve (g : Gate) (l : List Ticket) : (g.serve l).waiting = [] :=
  waiting_settle_none _

/-- **A gate's passages are those of the schedule.** -/
theorem passed_serve (pause : Nat) (last : Option Nat)
    (hl : l.Pairwise fun a b => a.visitor.arrival ≤ b.visitor.arrival) :
    ((ofLast pause last).serve l).passed.reverse = passages pause last l := by
  have hstart : (ofLast pause last).IsPrompt := isPrompt_of_waiting_nil rfl
  obtain ⟨hprompt, hplan⟩ := hstart.foldl_arrive hl fun k _ => Nat.zero_le _
  have hserve := ((hprompt.settle none).2 []).trans hplan
  rw [plan, waiting_settle_none] at hserve
  exact (List.append_nil _).symm.trans hserve

/-- What a gate remembers is its last passage. -/
theorem last_serve (pause : Nat) (last : Option Nat)
    (hl : l.Pairwise fun a b => a.visitor.arrival ≤ b.visitor.arrival) :
    ((ofLast pause last).serve l).last = lastPassage pause last (l.map Ticket.visitor) := by
  have hrun : Throttle.Run pause (Throttle.start last l)
      (Throttle.ofGate [] ((ofLast pause last).serve l)) := Throttle.run_serve (ofLast pause last) l
  have hlast := (Throttle.isSpaced_of_run (Throttle.isSpaced_start pause last l) hrun).last_eq
  rw [lastPassage_eq_head?, ← passed_serve pause last hl, List.reverse_reverse]
  exact hlast

/-- One more visitor is remembered as the last one to pass, if that one passes. -/
theorem last_serve_concat (pause : Nat) (last : Option Nat) {front : List Ticket}
    (hl : (front ++ [k]).Pairwise fun a b => a.visitor.arrival ≤ b.visitor.arrival) :
    ((ofLast pause last).serve (front ++ [k])).last =
      (passageAfter pause ((ofLast pause last).serve front).last k.visitor).or
        ((ofLast pause last).serve front).last := by
  rw [last_serve pause last hl, last_serve pause last (List.pairwise_append.mp hl).1,
    List.map_append, lastPassage_append]
  rfl

theorem passage?_eq_none_iff : g.passage? n = none ↔ n ∉ g.passed.map Prod.fst := by
  rw [passage?, Option.map_eq_none_iff, List.find?_eq_none, List.mem_map]
  constructor
  · rintro h ⟨p, hp, rfl⟩
    exact h p hp (beq_self_eq_true _)
  · intro h p hp hnumber
    exact h ⟨p, hp, eq_of_beq hnumber⟩

theorem passage?_of_mem (hn : (g.passed.map Prod.fst).Nodup) (h : (n, t) ∈ g.passed) :
    g.passage? n = some t := by
  cases hp : g.passed.find? fun p => p.1 == n with
  | none => exact absurd (beq_self_eq_true n) (List.find?_eq_none.mp hp (n, t) h)
  | some p =>
    have hnumber : p.1 = n := by simpa using List.find?_some hp
    have heq := List.inj_on_of_nodup_map hn (List.mem_of_find?_eq_some hp) h hnumber
    rw [passage?, hp, heq]
    rfl

/-- When somebody passes is told by what the visitors in front leave behind. -/
theorem passage?_serve (pause : Nat) (last : Option Nat) {front back : List Ticket}
    (hn : ((front ++ k :: back).map Ticket.number).Nodup)
    (hl : (front ++ k :: back).Pairwise fun a b => a.visitor.arrival ≤ b.visitor.arrival) :
    ((ofLast pause last).serve (front ++ k :: back)).passage? k.number =
      passageAfter pause ((ofLast pause last).serve front).last k.visitor := by
  have hpassed := passed_serve pause last hl
  have hnumbers : (((ofLast pause last).serve (front ++ k :: back)).passed.map Prod.fst).Nodup := by
    rw [← List.nodup_reverse, ← List.map_reverse, hpassed]
    exact (numbers_passages_sublist pause last _).nodup hn
  rw [last_serve pause last (List.pairwise_append.mp hl).1]
  cases h : passageAfter pause (lastPassage pause last (front.map Ticket.visitor)) k.visitor with
  | none =>
    rw [passage?_eq_none_iff, ← List.mem_reverse, ← List.map_reverse, hpassed,
      number_mem_passages_iff hn]
    exact not_not_intro h
  | some t =>
    refine passage?_of_mem hnumbers ?_
    rw [← List.mem_reverse, hpassed, passages_append, passages_cons_of_some h]
    exact List.mem_append_right _ List.mem_cons_self

/-- Visitors who do not pass at a gate are not missed. -/
theorem serve_of_sublist (pause : Nat) (last : Option Nat) (h : l'.Sublist l)
    (hn : (l.map Ticket.number).Nodup)
    (hl : l.Pairwise fun a b => a.visitor.arrival ≤ b.visitor.arrival)
    (hleft : ∀ k ∈ l, k ∉ l' → ((ofLast pause last).serve l).passage? k.number = none) :
    ((ofLast pause last).serve l').last = ((ofLast pause last).serve l).last ∧
      ((ofLast pause last).serve l').passed = ((ofLast pause last).serve l).passed := by
  have hl' := hl.sublist h
  have hsame : passages pause last l' = passages pause last l := by
    refine passages_of_sublist h hn fun k hk hkept hmem => ?_
    rw [← passed_serve pause last hl, List.map_reverse, List.mem_reverse] at hmem
    exact passage?_eq_none_iff.mp (hleft k hk hkept) hmem
  constructor
  · rw [last_serve pause last hl', last_serve pause last hl, lastPassage_eq_head?,
      lastPassage_eq_head?, hsame]
  · rw [← List.reverse_inj, passed_serve pause last hl', passed_serve pause last hl, hsame]

/-- **A gate keeps to its schedule.** Let visitors come to a gate in the order of their arrivals.
In that order, each one passes on arrival, or one pause after the last one in front who passed if
that is later, unless that is past the visitor's limit; and whoever passes is the last one who
passed to those behind. Whoever does not pass might as well not have come: without some of them, or
all, the others pass at the same times and the gate remembers the same last passage. -/
theorem serve_follows_schedule (pause : Nat) (last : Option Nat) (callers : List Ticket)
    (hn : (callers.map Ticket.number).Nodup)
    (hs : callers.Pairwise fun a b => a.visitor.arrival ≤ b.visitor.arrival) :
    let gate := (ofLast pause last).serve
    (gate callers).waiting = [] ∧
    (gate []).last = last ∧
    (∀ front k back, callers = front ++ k :: back →
      let release := match (gate front).last with
        | none => k.visitor.arrival
        | some previous => max k.visitor.arrival (previous + pause)
      (gate callers).passage? k.number =
        (if k.visitor.waitsUntil release then some release else none) ∧
      (gate (front ++ [k])).last = ((gate callers).passage? k.number).or (gate front).last) ∧
    ∀ kept, kept.Sublist callers →
      (∀ k ∈ callers, k ∉ kept → (gate callers).passage? k.number = none) →
      (gate kept).last = (gate callers).last ∧ (gate kept).passed = (gate callers).passed := by
  intro gate
  refine ⟨waiting_serve _ _, last_serve pause last .nil, ?_,
    fun kept h => serve_of_sublist pause last h hn hs⟩
  rintro front k back rfl
  have hpassage := passage?_serve pause last hn hs
  constructor
  · refine hpassage.trans ?_
    simp only [gate]
    cases ((ofLast pause last).serve front).last <;> rfl
  · rw [hpassage]
    exact last_serve_concat pause last (hs.sublist (by simp))

/-- One who leaves from the gate, one who leaves from the queue behind, and one who passes at the
last instant. -/
theorem serve_follows_schedule_impatient :
    let callers : List Ticket := [⟨0, 0, none⟩, ⟨1, 1, some 5⟩, ⟨2, 2, some 3⟩, ⟨3, 2, some 10⟩,
      ⟨4, 25, none⟩]
    let kept : List Ticket := [⟨0, 0, none⟩, ⟨3, 2, some 10⟩, ⟨4, 25, none⟩]
    let gate := (ofLast 10 none).serve
    (callers.map Ticket.number).Nodup ∧
      (callers.Pairwise fun a b => a.visitor.arrival ≤ b.visitor.arrival) ∧
      (callers.map fun k => (gate callers).passage? k.number) =
        [some 0, none, none, some 10, some 25] ∧
      (gate kept).passed = (gate callers).passed := by
  intro callers kept gate
  have hn : (callers.map Ticket.number).Nodup := by decide
  have hs : callers.Pairwise fun a b => a.visitor.arrival ≤ b.visitor.arrival := by decide
  have hpassages : (callers.map fun k => (gate callers).passage? k.number) =
      [some 0, none, none, some 10, some 25] := by decide +kernel
  have hleft : ∀ k ∈ callers, k ∉ kept → (gate callers).passage? k.number = none := by
    decide +kernel
  obtain ⟨-, -, -, hkept⟩ := serve_follows_schedule 10 none callers hn hs
  exact ⟨hn, hs, hpassages, (hkept kept (by decide) hleft).2⟩

end Gate
end Metasearch.Pacing
