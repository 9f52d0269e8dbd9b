import Metasearch.Adapter
import Metasearch.Outcome

/-!
# Dispatch

Tasks start together, each under a limit of its own, and all of them under one deadline. As they
complete, their results are put into the places of their tasks; what has not completed by the
deadline is dropped. A result that comes at the very instant of a limit still counts.

## Main definitions

* `Task`: one source at work.
* `Slot`: its records and its outcome.
* `Completion`: a task that is done, and `gather`: the places filled as tasks complete.
* `Dispatch`, `dispatch`: all tasks from start to end.
-/

namespace Metasearch

/-- The limits of a call, in milliseconds. -/
structure Limits where
  /-- How long a source without a limit of its own may take. -/
  sourceTimeout : Nat
  /-- How long the call may take. -/
  deadline : Nat
deriving DecidableEq

namespace Limits

/-- The limits when nothing is told. -/
def standard : Limits := ⟨10000, 15000⟩

/-- How long a source may take. -/
def ofSource (l : Limits) (s : Source) : Nat :=
  s.timeout.getD l.sourceTimeout

end Limits

/-- One source at work. -/
structure Task where
  /-- The id of the source. -/
  source : String
  /-- How long it may take, in milliseconds. -/
  limit : Nat
  /-- What it does. -/
  work : Timed (List Record)

/-- What one source contributes to a call. -/
structure Slot where
  /-- Its records. -/
  records : List Record
  /-- How it fared. -/
  outcome : Outcome

namespace Slot

/-- The contribution of a source that failed. -/
def failed (source : String) (kind : FailureKind) (cause : String) (elapsed : Nat) : Slot :=
  ⟨[], Outcome.failed source kind cause elapsed⟩

/-- The contribution of a source whose work came to an end in time. -/
def ofAttempt (source : String) (elapsed : Nat) : Attempt (List Record) → Slot
  | .done records =>
    ⟨records.map fun r => { r with source }, Outcome.ofCount source records.length elapsed⟩
  | .failed f => failed source f.kind f.message elapsed
  | .crashed => failed source .parse "adapter panicked" elapsed

/-- The contribution of a source that reached its limit. -/
def timedOut (source : String) (limit : Nat) : Slot :=
  failed source .timeout ("timed out after " ++ toString limit ++ "ms") limit

/-- The contribution of a source that was still at work at the deadline. -/
def dropped (source : String) (deadline elapsed : Nat) : Slot :=
  failed source .timeout ("overall deadline of " ++ toString deadline ++ "ms exceeded") elapsed

end Slot

namespace Task

/-- When the task is over: with its work, or at its limit. -/
def finish (t : Task) : Nat :=
  match t.work.duration with
  | some d => min d t.limit
  | none => t.limit

/-- What the task contributes when it is over. -/
def slot (t : Task) : Slot :=
  match t.work.duration with
  | some d =>
    if d ≤ t.limit then Slot.ofAttempt t.source d t.work.ending else Slot.timedOut t.source t.limit
  | none => Slot.timedOut t.source t.limit

end Task

/-- A task that is over. -/
structure Completion where
  /-- When. -/
  time : Nat
  /-- The place of the task. -/
  place : Nat
  /-- What it contributes. -/
  slot : Slot

/-- The places of the tasks, and the time that has passed. -/
structure Board where
  /-- What the tasks contributed, as far as they are over. -/
  slots : List (Option Slot)
  /-- The time that has passed. -/
  elapsed : Nat

/-- The places filled by completions in the order in which they come, until none is left or the
deadline passes. -/
def gather (deadline : Nat) : List Completion → Board → Board
  | [], b => b
  | c :: rest, b =>
    if c.time ≤ deadline then gather deadline rest ⟨b.slots.set c.place (some c.slot), c.time⟩
    else { b with elapsed := deadline }

/-- The completions of tasks in the places from `place` on. -/
def completionsFrom (place : Nat) : List Task → List Completion
  | [] => []
  | t :: rest => ⟨t.finish, place, t.slot⟩ :: completionsFrom (place + 1) rest

/-- The completions of tasks in the order of time; of two at one instant, the task that stands
first comes first. -/
def completions (tasks : List Task) : List Completion :=
  (completionsFrom 0 tasks).mergeSort fun a b => a.time ≤ b.time

/-- What became of a call. -/
structure Dispatch where
  /-- The contributions in the order of the tasks. -/
  entries : List (String × Slot)
  /-- How long the call took, in milliseconds. -/
  elapsed : Nat

namespace Dispatch

/-- All records in the order of the sources. -/
def records (d : Dispatch) : List Record :=
  d.entries.flatMap fun e => e.2.records

/-- The outcomes in the order of the sources. -/
def outcomes (d : Dispatch) : List Outcome :=
  d.entries.map fun e => e.2.outcome

end Dispatch

/-- What became of tasks that completed in a given order. -/
def report (deadline : Nat) (tasks : List Task) (order : List Completion) : Dispatch :=
  let board := gather deadline order ⟨tasks.map fun _ => none, 0⟩
  let entry := fun (t : Task) (slot : Option Slot) =>
    (t.source, slot.getD (Slot.dropped t.source deadline board.elapsed))
  ⟨List.zipWith entry tasks board.slots, board.elapsed⟩

/-- All tasks from start to end. -/
def dispatch (deadline : Nat) (tasks : List Task) : Dispatch :=
  report deadline tasks (completions tasks)

end Metasearch
