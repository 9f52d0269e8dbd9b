import Metasearch.Source.Catalog

/-!
# Settings

The limits of an engine and the sources it asks. Every field may be left out; sources that are
told take the place of the built-in ones.

## Main definitions

* `Settings`, `Settings.standard`.
* `Settings.fault?`: what is wrong with settings.
* `Settings.encode`, `Settings.decode?`: settings as data.
-/

namespace Metasearch

/-- The limits of an engine and the sources it asks. -/
structure Settings where
  /-- How many records are kept after ranking. -/
  maxResults : Nat
  /-- How long a source without a limit of its own may take, in milliseconds. -/
  sourceTimeout : Nat
  /-- How long one call may take, in milliseconds. -/
  deadline : Nat
  /-- What servers are told about who asks. -/
  userAgent : Option String
  /-- The sources. -/
  sources : List Source
deriving DecidableEq

namespace Settings

/-- The settings when nothing is told. -/
def standard : Settings :=
  { maxResults := 20, sourceTimeout := 10000, deadline := 15000, userAgent := none
    sources := Catalog.standard }

/-- What is wrong with a list of sources, the ids in `seen` being taken. -/
def sourcesFault? (seen : List String) : List Source → Option ConfigFault
  | [] => none
  | s :: r =>
    match s.fault? with
    | some fault => some fault
    | none =>
      if seen.contains s.id then some (.duplicateId s.id) else sourcesFault? (s.id :: seen) r

/-- What is wrong with the settings. -/
def fault? (s : Settings) : Option ConfigFault :=
  if s.maxResults = 0 then some .noResults
  else if s.sourceTimeout = 0 ∨ s.deadline = 0 then some .zeroTimeout
  else sourcesFault? [] s.sources

/-- The names of the stored fields. -/
def fieldNames : List String :=
  ["max_results", "source_timeout_ms", "deadline_ms", "user_agent", "sources"]

/-- Settings as data. -/
def encode (s : Settings) : Data :=
  .table [("max_results", Data.ofNat s.maxResults),
    ("source_timeout_ms", Data.ofNat s.sourceTimeout), ("deadline_ms", Data.ofNat s.deadline),
    ("user_agent", Data.ofOption .text s.userAgent),
    ("sources", .list (s.sources.map Source.encode))]

/-- The settings that data denotes. -/
def decode? (d : Data) : Option Settings := do
  let f ← d.fields? fieldNames
  return {
    maxResults := ← f.orElse? "max_results" Data.asNat? standard.maxResults
    sourceTimeout := ← f.orElse? "source_timeout_ms" Data.asNat? standard.sourceTimeout
    deadline := ← f.orElse? "deadline_ms" Data.asNat? standard.deadline
    userAgent := ← f.maybe? "user_agent" Data.asText?
    sources := ← f.orElse? "sources" (Data.asList? Source.decode?) standard.sources }

end Settings
end Metasearch
