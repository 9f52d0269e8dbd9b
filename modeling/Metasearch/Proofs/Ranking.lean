import Mathlib.Data.List.Dedup
import Metasearch.Proofs.Registry
import Metasearch.Proofs.Text.Pieces
import Metasearch.Service

/-!
# What ranking keeps

Ranking leaves out duplicates, moves records about and cuts the list. All that it says about a
record is its canonical URL and its score: whatever comes out was delivered, and no two of it are
one page. The order of the scores is not needed for any of this, so sorting counts as a permutation
here.

## Main definitions

* `canonicalUrls`: the pages among some records.

## Main results

* `nodup_map_url_unique`, `length_unique`: one record for each page.
* `sorted_perm`.
* `Ranking.mem_rank`, `Ranking.nodup_map_url_rank`, `Ranking.total_rank`.
* `Service.weight_ofRegistry`: each source counts as its configuration says.
-/

namespace Metasearch

open Metasearch.Text

variable {seen : List String} {records rest : List Record} {r x : Record} {u : String}

/-- The canonical URLs of records, as often as they occur. -/
def canonicalUrls (records : List Record) : List String :=
  records.filterMap fun r => Url.canonicalHref? r.url

theorem canonicalUrls_of_none (h : Url.canonicalHref? r.url = none) :
    canonicalUrls (r :: rest) = canonicalUrls rest :=
  List.filterMap_cons_none h

theorem canonicalUrls_of_some (h : Url.canonicalHref? r.url = some u) :
    canonicalUrls (r :: rest) = u :: canonicalUrls rest :=
  List.filterMap_cons_some h

/-! ### One record for each page -/

theorem uniqueAfter_of_none (h : Url.canonicalHref? r.url = none) :
    uniqueAfter seen (r :: rest) = uniqueAfter seen rest := by
  rw [uniqueAfter, h]

theorem uniqueAfter_of_mem (h : Url.canonicalHref? r.url = some u) (hu : u ∈ seen) :
    uniqueAfter seen (r :: rest) = uniqueAfter seen rest := by
  rw [uniqueAfter, h]
  exact if_pos (List.contains_iff_mem.mpr hu)

theorem uniqueAfter_of_notMem (h : Url.canonicalHref? r.url = some u) (hu : u ∉ seen) :
    uniqueAfter seen (r :: rest) = { r with url := u } :: uniqueAfter (u :: seen) rest := by
  rw [uniqueAfter, h]
  exact if_neg (fun hmem => hu (List.contains_iff_mem.mp hmem))

/-- A page has a record unless it has been seen. -/
theorem mem_map_url_uniqueAfter (seen : List String) (records : List Record) (u : String) :
    u ∈ (uniqueAfter seen records).map Record.url ↔ u ∈ canonicalUrls records ∧ u ∉ seen := by
  induction records generalizing seen with
  | nil => simp [uniqueAfter, canonicalUrls]
  | cons r rest ih =>
    cases h : Url.canonicalHref? r.url with
    | none =>
      rw [uniqueAfter_of_none h, ih, canonicalUrls_of_none h]
    | some v =>
      rw [canonicalUrls_of_some h, List.mem_cons]
      by_cases hv : v ∈ seen
      · rw [uniqueAfter_of_mem h hv, ih]
        constructor
        · exact fun hu => ⟨Or.inr hu.1, hu.2⟩
        · rintro ⟨rfl | hu, hs⟩
          · exact absurd hv hs
          · exact ⟨hu, hs⟩
      · rw [uniqueAfter_of_notMem h hv, List.map_cons, List.mem_cons, ih, List.mem_cons, not_or]
        constructor
        · rintro (rfl | ⟨hu, -, hs⟩)
          · exact ⟨Or.inl rfl, hv⟩
          · exact ⟨Or.inr hu, hs⟩
        · rintro ⟨rfl | hu, hs⟩
          · exact Or.inl rfl
          · by_cases huv : u = v
            · exact Or.inl huv
            · exact Or.inr ⟨hu, huv, hs⟩

theorem nodup_map_url_uniqueAfter (seen : List String) (records : List Record) :
    ((uniqueAfter seen records).map Record.url).Nodup := by
  induction records generalizing seen with
  | nil => exact List.nodup_nil
  | cons r rest ih =>
    cases h : Url.canonicalHref? r.url with
    | none =>
      rw [uniqueAfter_of_none h]
      exact ih seen
    | some v =>
      by_cases hv : v ∈ seen
      · rw [uniqueAfter_of_mem h hv]
        exact ih seen
      · rw [uniqueAfter_of_notMem h hv, List.map_cons, List.nodup_cons]
        refine ⟨fun hmem => ?_, ih (v :: seen)⟩
        exact ((mem_map_url_uniqueAfter _ _ _).mp hmem).2 List.mem_cons_self

theorem mem_uniqueAfter (h : x ∈ uniqueAfter seen records) :
    ∃ r ∈ records, Url.canonicalHref? r.url = some x.url ∧ x = { r with url := x.url } := by
  induction records generalizing seen with
  | nil => exact absurd h List.not_mem_nil
  | cons r rest ih =>
    have hrest : ∀ {seen}, x ∈ uniqueAfter seen rest →
        ∃ t ∈ r :: rest, Url.canonicalHref? t.url = some x.url ∧ x = { t with url := x.url } := by
      intro seen hx
      obtain ⟨t, ht, hspec⟩ := ih hx
      exact ⟨t, List.mem_cons_of_mem r ht, hspec⟩
    cases hr : Url.canonicalHref? r.url with
    | none => exact hrest (uniqueAfter_of_none hr ▸ h)
    | some v =>
      by_cases hv : v ∈ seen
      · exact hrest (uniqueAfter_of_mem hr hv ▸ h)
      · rw [uniqueAfter_of_notMem hr hv] at h
        rcases List.mem_cons.mp h with rfl | h
        · exact ⟨r, List.mem_cons_self, hr, rfl⟩
        · exact hrest h

theorem nodup_map_url_unique (records : List Record) : ((unique records).map Record.url).Nodup :=
  nodup_map_url_uniqueAfter [] records

/-- **There are as many records left as there were pages.** -/
theorem length_unique (records : List Record) :
    (unique records).length = (canonicalUrls records).dedup.length := by
  have hperm : ((unique records).map Record.url).Perm (canonicalUrls records).dedup := by
    refine (List.perm_ext_iff_of_nodup (nodup_map_url_unique records) (List.nodup_dedup _)).mpr ?_
    intro u
    rw [unique, mem_map_url_uniqueAfter, List.mem_dedup]
    exact and_iff_left List.not_mem_nil
  rw [← hperm.length_eq, List.length_map]

/-! ### Order -/

theorem placed_perm (records : List Record) (r : Record) :
    (placed records r).Perm (r :: records) := by
  have hinit : dropTailWhile (fun p => p.score.less r.score) records <+: records := by
    rw [dropTailWhile_eq_rdropWhile]
    exact List.rdropWhile_prefix _ records
  rw [placed]
  refine List.perm_middle.trans ?_
  rw [List.prefix_iff_eq_append.mp hinit]

theorem foldl_placed_perm (records done : List Record) :
    (records.foldl placed done).Perm (records ++ done) := by
  induction records generalizing done with
  | nil => exact List.Perm.refl done
  | cons r rest ih =>
    rw [List.foldl_cons]
    refine (ih (placed done r)).trans ?_
    exact ((placed_perm done r).append_left rest).trans List.perm_middle

theorem sorted_perm (records : List Record) : (sorted records).Perm records := by
  rw [sorted]
  exact (foldl_placed_perm records []).trans (List.Perm.of_eq (List.append_nil records))

/-! ### Ranking -/

namespace Ranking

variable {k : Ranking}

theorem score_eq_getD (k : Ranking) (r : Record) :
    k.score r = (r.relevance.filter Double.isFinite).getD (k.weight r.source) := by
  rw [score]
  cases r.relevance.filter Double.isFinite <;> rfl

theorem ordered_perm (k : Ranking) (records : List Record) :
    (k.ordered records).Perm ((unique records).map k.scored) :=
  sorted_perm _

theorem map_url_scored (k : Ranking) (records : List Record) :
    (records.map k.scored).map Record.url = records.map Record.url :=
  List.map_map

theorem nodup_map_url_rank (k : Ranking) (records : List Record) :
    ((k.rank records).records.map Record.url).Nodup := by
  have hall : ((k.ordered records).map Record.url).Nodup := by
    rw [((k.ordered_perm records).map Record.url).nodup_iff, map_url_scored]
    exact nodup_map_url_unique records
  exact ((List.take_sublist k.limit _).map Record.url).nodup hall

theorem total_rank (k : Ranking) (records : List Record) :
    (k.rank records).total = (canonicalUrls records).dedup.length := by
  rw [← length_unique, ← List.length_map k.scored]
  exact (k.ordered_perm records).length_eq

theorem length_rank (k : Ranking) (records : List Record) :
    (k.rank records).records.length = min k.limit (k.rank records).total :=
  List.length_take

/-- **What is ranked was delivered**: only its URL and its score are new. -/
theorem mem_rank (h : x ∈ (k.rank records).records) :
    ∃ r ∈ records, Url.canonicalHref? r.url = some x.url ∧
      x = { r with url := x.url, score := k.score r } := by
  have hx := (k.ordered_perm records).mem_iff.mp (List.mem_of_mem_take h)
  obtain ⟨y, hy, rfl⟩ := List.mem_map.mp hx
  obtain ⟨r, hr, hurl, hspec⟩ := mem_uniqueAfter hy
  refine ⟨r, hr, hurl, ?_⟩
  rw [hspec]
  rfl

end Ranking

/-! ### Weights -/

namespace Ranking

variable {adapters : List Adapter} {a : Adapter} {source : String} {weight : Double}

theorem weight_withWeight_self (k : Ranking) (source : String) (weight : Double) :
    (k.withWeight source weight).weight source = weight := by
  simp only [Ranking.weight, withWeight, List.find?_cons, beq_self_eq_true]
  rfl

theorem weight_withWeight_of_ne {other : String} (h : source ≠ other) (k : Ranking) :
    (k.withWeight source weight).weight other = k.weight other := by
  simp only [Ranking.weight, withWeight, List.find?_cons, beq_false_of_ne h]

theorem weight_withWeights_of_notMem (h : source ∉ adapters.map Adapter.id) (k : Ranking) :
    (adapters.foldl (fun k a => k.withWeight a.id a.source.weight) k).weight source =
      k.weight source := by
  induction adapters generalizing k with
  | nil => rfl
  | cons a rest ih =>
    rw [List.map_cons, List.mem_cons, not_or] at h
    rw [List.foldl_cons, ih h.2, weight_withWeight_of_ne (Ne.symm h.1)]

/-- Since ids are distinct, no later weight is told for the same source. -/
theorem weight_withWeights (hn : (adapters.map Adapter.id).Nodup) (ha : a ∈ adapters)
    (k : Ranking) :
    (adapters.foldl (fun k a => k.withWeight a.id a.source.weight) k).weight a.id =
      a.source.weight := by
  induction adapters generalizing k with
  | nil => exact absurd ha List.not_mem_nil
  | cons b rest ih =>
    rw [List.map_cons, List.nodup_cons] at hn
    rw [List.foldl_cons]
    rcases List.mem_cons.mp ha with rfl | ha
    · rw [weight_withWeights_of_notMem hn.1, weight_withWeight_self]
    · exact ih hn.2 ha _

end Ranking

/-- **Each source counts as its configuration says.** -/
theorem Service.weight_ofRegistry {r : Registry} {a : Adapter} (ha : a ∈ r.adapters) :
    (Service.ofRegistry r).ranking.weight a.id = a.source.weight :=
  Ranking.weight_withWeights r.distinct ha _

end Metasearch
