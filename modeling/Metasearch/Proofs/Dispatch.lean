import Mathlib.Data.List.Perm.Basic
import Metasearch.Dispatch

/-!
# What a dispatch comes to

Tasks complete in some order, and each result is put into the place of its task. The order leaves no
trace: what a source contributes depends on its own work, its own limit and the deadline, and on
nothing else. So an event loop over unboundedly many interleavings collapses to a map over the
tasks.

## The two limits

A task is over at its own limit at the latest (`Task.finish`), and the loop leaves at the deadline.
Only the second one is decided by the loop, so the closed form `Task.settled` splits on the deadline
first. A task that is over at the very instant of the deadline still counts.

## Main definitions

* `Limits.task`: the task that a call makes of a source.
* `Task.settled`: what a task contributes to a call.
* `Task.delivered`: the records that a task brought.
* `CompletesIn`: the orders in which tasks may complete.

## Main results

* `Task.records_settled`: only sources that fared well bring records.
* `entries_report`, `elapsed_report`: what any order comes to.
* `dispatch_outcome_of_order`: the closed form of a call.
-/

namespace Metasearch

/-- The task that a call makes of a source and its work. -/
def Limits.task (l : Limits) (s : Source) (work : Timed (List Record)) : Task :=
  ⟨s.id, l.ofSource s, work⟩

/-- The time and the end of a task's work, if that comes within the limit of the task. -/
def Task.answer? (t : Task) : Option (Nat × Attempt (List Record)) :=
  (t.work.duration.filter (· ≤ t.limit)).map fun d => (d, t.work.ending)

/-- What a task contributes to a call: nothing but a timeout if it is not over by the deadline, and
then its own result if that came within its own limit. -/
def Task.settled (deadline : Nat) (t : Task) : Slot :=
  if deadline < t.finish then
    Slot.failed t.source .timeout ("overall deadline of " ++ toString deadline ++ "ms exceeded")
      deadline
  else
    match t.answer? with
    | none => Slot.failed t.source .timeout ("timed out after " ++ toString t.limit ++ "ms") t.limit
    | some (d, .done records) =>
      ⟨records.map fun r => { r with source := t.source },
        t.source, if records.length = 0 then .empty else .success records.length, d⟩
    | some (d, .failed f) => Slot.failed t.source f.kind f.message d
    | some (d, .crashed) => Slot.failed t.source .parse "adapter panicked" d

/-- The records that a task brought; none if it did not fare well. -/
def Task.delivered (t : Task) (deadline : Nat) : List Record :=
  match (t.settled deadline).outcome.status, t.work.ending with
  | .success _, .done records => records
  | _, _ => []

/-- When the last of some tasks is over. -/
def latest (tasks : List Task) : Nat :=
  (tasks.map Task.finish).foldl max 0

/-- The orders in which tasks may complete: those that follow the clock. Tasks that are over at one
instant come in any order. -/
structure CompletesIn (tasks : List Task) (order : List Completion) : Prop where
  /-- Every task completes once. -/
  perm : order.Perm (completionsFrom 0 tasks)
  /-- No task completes before one that is over earlier. -/
  sorted : order.Pairwise fun a b => a.time ≤ b.time

/-! ### Tasks and their places -/

theorem Task.answer?_of_le {t : Task} {d : Nat} (hd : t.work.duration = some d)
    (h : d ≤ t.limit) : t.answer? = some (d, t.work.ending) := by
  simp [Task.answer?, hd, h]

theorem Task.answer?_of_lt {t : Task} {d : Nat} (hd : t.work.duration = some d)
    (h : t.limit < d) : t.answer? = none := by
  simp [Task.answer?, hd, h]

theorem Task.answer?_of_none {t : Task} (hd : t.work.duration = none) : t.answer? = none := by
  simp [Task.answer?, hd]

theorem Task.settled_of_finish_le {t : Task} {deadline : Nat} (h : t.finish ≤ deadline) :
    t.settled deadline = t.slot := by
  rw [Task.settled, if_neg (Nat.not_lt.mpr h), Task.slot]
  cases hd : t.work.duration with
  | none =>
    rw [Task.answer?_of_none hd]
    rfl
  | some d =>
    rcases Nat.lt_or_ge t.limit d with hlt | hle
    · rw [Task.answer?_of_lt hd hlt]
      exact (if_neg (Nat.not_le.mpr hlt)).symm
    · rw [Task.answer?_of_le hd hle]
      refine Eq.trans ?_ (if_pos hle).symm
      cases t.work.ending <;> rfl

theorem Task.settled_of_lt_finish {t : Task} {deadline : Nat} (h : deadline < t.finish) :
    t.settled deadline = Slot.dropped t.source deadline deadline := by
  rw [Task.settled, if_pos h]
  rfl

theorem Task.source_settled (t : Task) (deadline : Nat) :
    (t.settled deadline).outcome.source = t.source := by
  rw [Task.settled]
  split
  · rfl
  · split <;> rfl

theorem Task.ending_of_answer? {t : Task} {d : Nat} {ending : Attempt (List Record)}
    (h : t.answer? = some (d, ending)) : t.work.ending = ending := by
  rw [Task.answer?, Option.map_eq_some_iff] at h
  obtain ⟨e, -, he⟩ := h
  exact (Prod.mk.inj he).2

/-- **Only sources that fared well bring records**, and they put their id on them. -/
theorem Task.records_settled (t : Task) (deadline : Nat) :
    (t.settled deadline).records =
      (t.delivered deadline).map fun r => { r with source := t.source } := by
  rw [Task.delivered, Task.settled]
  split
  · rfl
  · split
    · rfl
    · rename_i d records ha
      rw [Task.ending_of_answer? ha]
      cases records with
      | nil => rfl
      | cons r rest => rfl
    · rfl
    · rfl

theorem Task.status_of_mem_delivered {t : Task} {deadline : Nat} {r : Record}
    (h : r ∈ t.delivered deadline) :
    ∃ count, (t.settled deadline).outcome.status = .success count := by
  rw [Task.delivered] at h
  split at h
  · rename_i count records hstatus hending
    exact ⟨count, hstatus⟩
  · exact absurd h List.not_mem_nil

theorem Task.ending_of_mem_delivered {t : Task} {deadline : Nat} {r : Record}
    (h : r ∈ t.delivered deadline) :
    ∃ records, t.work.ending = .done records ∧ r ∈ records := by
  rw [Task.delivered] at h
  split at h
  · rename_i count records hstatus hending
    exact ⟨records, hending, h⟩
  · exact absurd h List.not_mem_nil

/-- A source that failed brings no records. -/
theorem Task.records_settled_of_isError {t : Task} {deadline : Nat}
    (h : (t.settled deadline).outcome.isError) : (t.settled deadline).records = [] := by
  rw [Task.records_settled, Task.delivered]
  split
  · rename_i hstatus hending
    rw [Outcome.isError, Outcome.failureKind?, hstatus] at h
    exact absurd h Bool.false_ne_true
  · rfl

theorem mem_completionsFrom {place : Nat} {tasks : List Task} {c : Completion} :
    c ∈ completionsFrom place tasks ↔
      ∃ i t, tasks[i]? = some t ∧ c = ⟨t.finish, place + i, t.slot⟩ := by
  induction tasks generalizing place with
  | nil => simp [completionsFrom]
  | cons t rest ih =>
    rw [completionsFrom, List.mem_cons, ih]
    constructor
    · rintro (rfl | ⟨i, u, hu, rfl⟩)
      · exact ⟨0, t, rfl, rfl⟩
      · refine ⟨i + 1, u, hu, ?_⟩
        rw [Nat.add_assoc, Nat.add_comm 1]
    · rintro ⟨i, u, hu, rfl⟩
      cases i with
      | zero =>
        obtain rfl : t = u := by simpa using hu
        exact Or.inl rfl
      | succ i =>
        refine Or.inr ⟨i, u, hu, ?_⟩
        rw [Nat.add_assoc, Nat.add_comm 1]

theorem map_place_completionsFrom (place : Nat) (tasks : List Task) :
    (completionsFrom place tasks).map Completion.place = List.range' place tasks.length := by
  induction tasks generalizing place with
  | nil => rfl
  | cons t rest ih =>
    rw [completionsFrom, List.map_cons, ih, List.length_cons, List.range'_succ]

theorem map_time_completionsFrom (place : Nat) (tasks : List Task) :
    (completionsFrom place tasks).map Completion.time = tasks.map Task.finish := by
  induction tasks generalizing place with
  | nil => rfl
  | cons t rest ih => rw [completionsFrom, List.map_cons, ih, List.map_cons]

theorem CompletesIn.nodup {tasks : List Task} {order : List Completion}
    (h : CompletesIn tasks order) : (order.map Completion.place).Nodup := by
  rw [(h.perm.map Completion.place).nodup_iff, map_place_completionsFrom]
  exact List.nodup_range'

/-- The order of the clock, with ties in the order of the tasks, is one that may come about. -/
theorem completesIn_completions (tasks : List Task) : CompletesIn tasks (completions tasks) where
  perm := List.mergeSort_perm _ _
  sorted := by
    refine (List.pairwise_mergeSort ?_ ?_ _).imp fun h => of_decide_eq_true h
    · intro a b c hab hbc
      exact decide_eq_true (Nat.le_trans (of_decide_eq_true hab) (of_decide_eq_true hbc))
    · intro a b
      rcases Nat.le_total a.time b.time with h | h <;> simp [h]

/-! ### The loop

The places that the loop has filled are those of the completions up to the deadline. The two lemmas
on `slots` are inductions along the order: a place is never touched after its own completion, since
no other completion has it. -/

variable {deadline : Nat} {order : List Completion} {b : Board}

theorem slots_gather_of_late {p : Nat} (h : ∀ c ∈ order, c.place = p → deadline < c.time) :
    (gather deadline order b).slots[p]? = b.slots[p]? := by
  induction order generalizing b with
  | nil => rfl
  | cons c rest ih =>
    rw [gather]
    split
    · rename_i hc
      have hp : c.place ≠ p := fun hp => Nat.not_lt.mpr hc (h c List.mem_cons_self hp)
      rw [ih fun d hd => h d (List.mem_cons_of_mem _ hd)]
      exact List.getElem?_set_ne hp
    · rfl

theorem slots_gather_of_mem {c : Completion} (hs : order.Pairwise fun a b => a.time ≤ b.time)
    (hn : (order.map Completion.place).Nodup) (hc : c ∈ order) (ht : c.time ≤ deadline)
    (hb : c.place < b.slots.length) :
    (gather deadline order b).slots[c.place]? = some (some c.slot) := by
  induction order generalizing b with
  | nil => simp at hc
  | cons e rest ih =>
    rw [List.pairwise_cons] at hs
    rw [List.map_cons, List.nodup_cons] at hn
    rw [gather]
    rcases List.mem_cons.mp hc with rfl | hc
    · rw [if_pos ht, slots_gather_of_late, List.getElem?_set_self hb]
      intro d hd hp
      exact absurd (List.mem_map.mpr ⟨d, hd, hp⟩) hn.1
    · rw [if_pos (Nat.le_trans (hs.1 c hc) ht)]
      exact ih hs.2 hn.2 hc (by simpa using hb)

theorem elapsed_gather (hs : order.Pairwise fun a b => a.time ≤ b.time)
    (hb : ∀ c ∈ order, b.elapsed ≤ c.time) (hd : b.elapsed ≤ deadline) :
    (gather deadline order b).elapsed =
      min deadline ((order.map Completion.time).foldl max b.elapsed) := by
  induction order generalizing b with
  | nil => exact (Nat.min_eq_right hd).symm
  | cons c rest ih =>
    rw [List.pairwise_cons] at hs
    rw [gather, List.map_cons, List.foldl_cons, Nat.max_eq_right (hb c List.mem_cons_self)]
    split
    · rename_i hc
      exact ih hs.2 hs.1 hc
    · rename_i hc
      have hle : c.time ≤ (rest.map Completion.time).foldl max c.time := by
        rw [List.foldl_max]
        exact Nat.le_max_left _ _
      exact (Nat.min_eq_left (Nat.le_trans (Nat.le_of_not_le hc) hle)).symm

/-! ### The closed form -/

variable {tasks : List Task}

theorem foldl_max_time_eq_latest (h : CompletesIn tasks order) :
    (order.map Completion.time).foldl max 0 = latest tasks := by
  rw [(h.perm.map Completion.time).foldl_eq, map_time_completionsFrom]
  rfl

theorem elapsed_report (h : CompletesIn tasks order) :
    (report deadline tasks order).elapsed = min deadline (latest tasks) := by
  rw [← foldl_max_time_eq_latest h]
  exact elapsed_gather h.sorted (fun c _ => Nat.zero_le c.time) (Nat.zero_le deadline)

theorem finish_le_latest {t : Task} (ht : t ∈ tasks) : t.finish ≤ latest tasks := by
  rw [latest, List.foldl_max]
  refine Nat.le_trans ?_ (Nat.le_max_right _ _)
  exact List.le_max?_getD_of_mem (List.mem_map_of_mem ht)

/-- **Every order comes to the same.** The places of the tasks that are over by the deadline are
filled with what the tasks contribute; the others are filled afterwards. -/
theorem entries_report (h : CompletesIn tasks order) :
    (report deadline tasks order).entries =
      tasks.map fun t => (t.source, t.settled deadline) := by
  refine List.ext_getElem? fun i => ?_
  rw [List.getElem?_map]
  simp only [report, List.getElem?_zipWith]
  cases ht : tasks[i]? with
  | none => rfl
  | some t =>
    have hi : i < tasks.length := (List.getElem?_eq_some_iff.mp ht).1
    rcases Nat.lt_or_ge deadline t.finish with hlt | hle
    · -- the task is late, so its place is still empty and the loop has run to the deadline
      have hlate : ∀ c ∈ order, c.place = i → deadline < c.time := by
        intro c hc hp
        obtain ⟨j, u, hu, rfl⟩ := mem_completionsFrom.mp (h.perm.mem_iff.mp hc)
        rw [Nat.zero_add] at hp
        subst hp
        obtain rfl : t = u := by simpa [ht] using hu
        exact hlt
      have hmin : min deadline (latest tasks) = deadline :=
        Nat.min_eq_left (Nat.le_trans (Nat.le_of_lt hlt)
          (finish_le_latest (List.mem_of_getElem? ht)))
      have hel : (gather deadline order ⟨tasks.map fun _ => none, 0⟩).elapsed = deadline :=
        (elapsed_report h).trans hmin
      rw [slots_gather_of_late hlate, List.getElem?_map, ht, hel]
      simp only [Option.map_some, Option.getD_none, Task.settled_of_lt_finish hlt]
    · have hmem : (⟨t.finish, i, t.slot⟩ : Completion) ∈ order :=
        h.perm.mem_iff.mpr (mem_completionsFrom.mpr ⟨i, t, ht, by rw [Nat.zero_add]⟩)
      rw [slots_gather_of_mem h.sorted h.nodup hmem hle (by simpa using hi)]
      simp only [Option.map_some, Option.getD_some, Task.settled_of_finish_le hle]

theorem dispatch_eq_report (h : CompletesIn tasks order) :
    dispatch deadline tasks = report deadline tasks order := by
  have hc := completesIn_completions tasks
  have he : (dispatch deadline tasks).entries = (report deadline tasks order).entries :=
    (entries_report hc).trans (entries_report h).symm
  have ht : (dispatch deadline tasks).elapsed = (report deadline tasks order).elapsed :=
    (elapsed_report hc).trans (elapsed_report h).symm
  cases hd : dispatch deadline tasks
  cases hr : report deadline tasks order
  rw [hd, hr] at he ht
  exact congrArg₂ Dispatch.mk he ht

@[simp] theorem entries_dispatch (deadline : Nat) (tasks : List Task) :
    (dispatch deadline tasks).entries = tasks.map fun t => (t.source, t.settled deadline) :=
  entries_report (completesIn_completions tasks)

@[simp] theorem elapsed_dispatch (deadline : Nat) (tasks : List Task) :
    (dispatch deadline tasks).elapsed = min deadline (latest tasks) :=
  elapsed_report (completesIn_completions tasks)

/-- **A dispatch is a map over its sources.** Whatever the order in which the tasks complete, there
is one entry for each source, in the order of the sources, and it is the one that `Task.settled`
tells from the source's own work, its own limit and the deadline. The call is over with its last
task, or at the deadline. Sources that failed bring no records, and more sources leave the entries
of the others as they are. -/
theorem dispatch_outcome_of_order (l : Limits) (jobs : List (Source × Timed (List Record)))
    (order : List Completion) (h : CompletesIn (jobs.map fun j => l.task j.1 j.2) order) :
    let tasks := jobs.map fun j => l.task j.1 j.2
    let d := report l.deadline tasks order
    d.entries = jobs.map (fun j => (j.1.id, (l.task j.1 j.2).settled l.deadline)) ∧
      d.elapsed = min l.deadline (latest tasks) ∧
      d.elapsed ≤ l.deadline ∧
      d = dispatch l.deadline tasks ∧
      (∀ e ∈ d.entries, e.2.outcome.source = e.1 ∧
        (e.2.outcome.isError → e.2.records = [])) ∧
      ∀ more : List (Source × Timed (List Record)),
        (dispatch l.deadline ((jobs ++ more).map fun j => l.task j.1 j.2)).entries =
          d.entries ++ (dispatch l.deadline (more.map fun j => l.task j.1 j.2)).entries := by
  intro tasks d
  have he : d.entries = jobs.map fun j => (j.1.id, (l.task j.1 j.2).settled l.deadline) := by
    rw [entries_report h, List.map_map]
    rfl
  refine ⟨he, elapsed_report h, ?_, (dispatch_eq_report h).symm, ?_, ?_⟩
  · rw [elapsed_report h]
    exact Nat.min_le_left _ _
  · rw [entries_report h]
    intro e hmem
    obtain ⟨t, -, rfl⟩ := List.mem_map.mp hmem
    exact ⟨Task.source_settled t l.deadline, Task.records_settled_of_isError⟩
  · intro more
    rw [entries_dispatch, entries_dispatch, entries_report h, List.map_append, List.map_append]

/-- A source that never answers, one that breaks down and one that answers with nothing, the last
two at one instant and in the order against that of the sources. -/
theorem dispatch_outcome_of_order_tie :
    let page (id : String) := Source.make id .searx (Template.ofUrl "https://a.example/")
    let jobs : List (Source × Timed (List Record)) :=
      [(page "stuck", ⟨none, .crashed⟩), (page "boom", ⟨some 5, .crashed⟩),
        (page "quiet", ⟨some 5, .done []⟩)]
    let tasks := jobs.map fun j => Limits.task ⟨10, 8⟩ j.1 j.2
    let order := (completionsFrom 0 tasks).reverse
    CompletesIn tasks order ∧
      (report 8 tasks order).outcomes =
        [⟨"stuck", .error .timeout "overall deadline of 8ms exceeded", 8⟩,
          ⟨"boom", .error .parse "adapter panicked", 5⟩, ⟨"quiet", .empty, 5⟩] ∧
      (report 8 tasks order).elapsed = 8 := by
  intro page jobs tasks order
  have h : CompletesIn tasks order := ⟨List.reverse_perm _, by decide⟩
  obtain ⟨he, ht, -⟩ := dispatch_outcome_of_order ⟨10, 8⟩ jobs order h
  refine ⟨h, ?_, ht⟩
  rw [Dispatch.outcomes, he]
  rfl

end Metasearch
