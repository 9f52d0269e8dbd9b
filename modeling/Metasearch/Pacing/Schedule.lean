import Metasearch.Pacing.Gate

/-!
# The schedule of a gate

What a gate does comes down to one rule: in the order of arrival, a visitor passes on arrival or
one pause after the last passage, whichever is later, unless that is past the visitor's patience.
A visitor who does not pass leaves no trace.

## Main definitions

* `schedule`: when each visitor passes.
* `lastPassage`: the last passage that a line of visitors leaves behind.
-/

namespace Metasearch.Pacing

/-- When a visitor passes who comes after a last passage, if patience lasts. -/
def passageAfter (pause : Nat) (last : Option Nat) (v : Visitor) : Option Nat :=
  let t := Gate.openTime pause last v.arrival
  if v.waitsUntil t then some t else none

/-- When each visitor passes, in the order of arrival. -/
def schedule (pause : Nat) : Option Nat → List Visitor → List (Option Nat)
  | _, [] => []
  | last, v :: rest =>
    let passage := passageAfter pause last v
    passage :: schedule pause (passage.or last) rest

/-- The last passage after a line of visitors. -/
def lastPassage (pause : Nat) : Option Nat → List Visitor → Option Nat
  | last, [] => last
  | last, v :: rest => lastPassage pause ((passageAfter pause last v).or last) rest

end Metasearch.Pacing
