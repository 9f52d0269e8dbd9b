import Metasearch.ResultSet
import Metasearch.Source.Basic
import Metasearch.Url.Canonical

/-!
# Ranking

Records of several sources become one list. The first record of each canonical URL is kept, each
record is scored, the better score comes first, and the list is cut. Records of equal score keep
the order in which they were delivered.

## Main definitions

* `unique`: one record for each canonical URL.
* `Ranking`: the weights of sources, and the cut.
* `Ranking.scored`, `sorted`: the steps in between.
* `Ranking.rank`: the whole.
-/

namespace Metasearch

open Metasearch.Text

/-! ### One record for each page -/

/-- The first record of each canonical URL that is not in `seen`, with that URL in the place of
its own. Records without a usable URL are left out. -/
def uniqueAfter (seen : List String) : List Record → List Record
  | [] => []
  | r :: rest =>
    match Url.canonicalHref? r.url with
    | none => uniqueAfter seen rest
    | some u =>
      if seen.contains u then uniqueAfter seen rest
      else { r with url := u } :: uniqueAfter (u :: seen) rest

/-- One record for each canonical URL, the first one that was delivered. -/
def unique (records : List Record) : List Record :=
  uniqueAfter [] records

/-! ### Order -/

/-- The records with one more, which moves up past every record that scores less. -/
def placed (records : List Record) (r : Record) : List Record :=
  let ahead := dropTailWhile (fun p => p.score.less r.score) records
  ahead ++ r :: records.drop ahead.length

/-- The records by falling score; equal scores keep their order. -/
def sorted (records : List Record) : List Record :=
  records.foldl placed []

/-! ### Ranking -/

/-- How records are scored and how many are kept. -/
structure Ranking where
  /-- The weights of sources by their ids. -/
  weights : List (String × Double)
  /-- How many records are kept. -/
  limit : Nat

namespace Ranking

/-- No weight is told, and the usual number of records is kept. -/
def standard : Ranking := ⟨[], 20⟩

/-- The ranking with another weight for a source. -/
def withWeight (k : Ranking) (source : String) (weight : Double) : Ranking :=
  { k with weights := (source, weight) :: k.weights }

/-- The ranking with another number of records kept. -/
def withLimit (k : Ranking) (limit : Nat) : Ranking :=
  { k with limit }

/-- The weight of a source. -/
def weight (k : Ranking) (source : String) : Double :=
  ((k.weights.find? fun w => w.1 == source).map (·.2)).getD Source.standardWeight

/-- What a record is ranked by: its relevance if that is finite, or the weight of its source. -/
def score (k : Ranking) (r : Record) : Double :=
  match r.relevance.filter Double.isFinite with
  | some x => x
  | none => k.weight r.source

/-- The record with its score. -/
def scored (k : Ranking) (r : Record) : Record :=
  { r with score := k.score r }

/-- All different records, scored and ordered. -/
def ordered (k : Ranking) (records : List Record) : List Record :=
  sorted ((unique records).map k.scored)

/-- The different records, scored, ordered and cut. -/
def rank (k : Ranking) (records : List Record) : ResultSet :=
  let all := k.ordered records
  ResultSet.ofRecords (all.take k.limit) all.length

end Ranking
end Metasearch
