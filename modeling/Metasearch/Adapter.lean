import Metasearch.Record
import Metasearch.Source.Request

/-!
# Adapters

An adapter is a source together with what it does for a query. It may work by itself, or ask a
server and read the answer. Times are in milliseconds; what never ends has no duration.

## Main definitions

* `Attempt`: how a piece of work ends.
* `Work`: what an adapter does for one query.
* `Adapter`.
* `Server`: what answers requests.
-/

namespace Metasearch

/-- How a piece of work ends. -/
inductive Attempt (α : Type) where
  /-- With a value. -/
  | done (value : α)
  /-- With a failure. -/
  | failed (failure : Failure)
  /-- It breaks down and tells no cause. -/
  | crashed

namespace Attempt

/-- The end of work that goes on with the value. -/
def andThen {α β : Type} (a : Attempt α) (next : α → Except Failure β) : Attempt β :=
  match a with
  | .done value =>
    match next value with
    | .ok b => .done b
    | .error f => .failed f
  | .failed f => .failed f
  | .crashed => .crashed

end Attempt

/-- Work that ends after a while, or never. -/
structure Timed (α : Type) where
  /-- How long it takes. -/
  duration : Option Nat
  /-- How it ends. -/
  ending : Attempt α

/-- What answers requests. -/
abbrev Server : Type := Request → Timed String

/-- What an adapter does for one query. -/
inductive Work where
  /-- It works by itself. -/
  | inside (work : Timed (List Record))
  /-- It asks a server and reads the answer. -/
  | exchange (request : Request) (read : String → Except Failure (List Record))

/-- A source together with what it does for a query. -/
structure Adapter where
  /-- The source. -/
  source : Source
  /-- What it does. -/
  work : Query → Work

namespace Adapter

/-- What the source is called. -/
def id (a : Adapter) : String := a.source.id

/-- An adapter that asks a server for what the source's configuration says; `read` makes sense
of an answer to a request. -/
def ofReader (s : Source) (read : Request → String → Except Failure (List Record)) : Adapter where
  source := s
  work q :=
    match s.requestFor q with
    | .ok r => .exchange r (read r)
    | .error f => .inside ⟨some 0, .failed f⟩

end Adapter
end Metasearch
