import Metasearch.Adapter
import Metasearch.Answer.Feed
import Metasearch.Answer.Listing
import Metasearch.Answer.Page
import Metasearch.Registry
import Metasearch.Service

/-!
# Adapters of configured sources

The engine of a source tells how its answers are read. A source with a fault has no adapter, nor has
one with a selector that is not well formed.

## Main definitions

* `Source.reader`: what makes sense of the answers of a source.
* `Adapter.ofSource`: the adapter of a source.
* `Registry.ofSettings`, `Service.ofSettings`: all that settings describe.
-/

namespace Metasearch

open Metasearch.Answer

/-- What makes sense of the answers of a source. -/
def Source.reader (s : Source) : Except Failure (Request → String → Except Failure (List Record)) :=
  match s.engine with
  | .google => .ok fun _ => readGoogle s
  | .brave => .ok fun _ => readBrave s
  | .duckduckgo => .ok fun _ => readDuckDuckGo s
  | .bing => .ok fun _ => readBing s
  | .searx => .ok fun _ => readHits s
  | .feed => .ok fun _ => readFeed s
  | .githubReleases => .ok fun _ => readReleases s
  | .githubIssues => .ok fun _ => readIssues s
  | .reddit => .ok fun _ => readPosts s
  | .customPage =>
    match s.selectors with
    | none => .error (.config (.noSelectors s.id))
    | some selectors =>
      (PageLayout.ofSelectors selectors).map fun c r body => .ok (readPage s c r.url body)

namespace Adapter

/-- The adapter of a source, whatever its configuration is. -/
def connect (s : Source) : Except Failure Adapter := (s.reader).map (ofReader s)

/-- The adapter of a source without a fault. -/
def ofSource (s : Source) : Except Failure Adapter :=
  match s.fault? with
  | some fault => .error (.config fault)
  | none => connect s

end Adapter

/-- The adapters of the sources that settings list. -/
def Registry.ofSettings (s : Settings) : Except Failure Registry :=
  match s.fault? with
  | some fault => .error (.config fault)
  | none => do ofAdapters (← s.sources.mapM Adapter.ofSource)

/-- What settings describe. -/
def Service.ofSettings (s : Settings) : Except Failure Service :=
  (Registry.ofSettings s).map fun r => (ofRegistry r).withSettings s

end Metasearch
