import Metasearch.Adapter
import Metasearch.Pacing.Gate

/-!
# Fetching through a gate

Several requests are made at once to one server through one gate, each under the same limit of
time.

## Main definitions

* `Fetched`: what comes of one request.
* `fetchAll`: what comes of all of them, and the last passage that they leave behind.
-/

namespace Metasearch.Pacing

/-- What comes of one request. -/
structure Fetched where
  /-- The request. -/
  request : Request
  /-- How it ends. -/
  ending : Attempt String
  /-- When the server received it, if it did. -/
  received : Option Nat
  /-- How long it took, in milliseconds; nothing if it never ends. -/
  elapsed : Option Nat

/-- What comes of a request that is made at a time and passes the gate at another, or never. -/
def fetchOne (server : Server) (now : Nat) (limit : Option Nat) (request : Request)
    (passage : Option Nat) : Fetched :=
  let reply := server request
  let needed := do return (← passage) - now + (← reply.duration)
  match needed, limit with
  | some d, none => ⟨request, reply.ending, passage, some d⟩
  | some d, some l =>
    if d ≤ l then ⟨request, reply.ending, passage, some d⟩
    else ⟨request, .failed .timeout, passage, some l⟩
  | none, some l => ⟨request, .failed .timeout, passage, some l⟩
  | none, none => ⟨request, .failed .timeout, passage, none⟩

/-- What comes of requests that are made at once, and the last passage after them. -/
def fetchAll (server : Server) (pause : Option Nat) (last : Option Nat) (now : Nat)
    (limit : Option Nat) (requests : List Request) : List Fetched × Option Nat :=
  let tickets := requests.mapIdx fun n _ => ⟨n, ⟨now, limit.map (now + ·)⟩⟩
  let gate := (Gate.ofLast (pause.getD 0) (pause.bind fun _ => last)).serve tickets
  (requests.mapIdx fun n r => fetchOne server now limit r (gate.passage? n), gate.last)

end Metasearch.Pacing
