import Metasearch.Proofs.Ranking
import Metasearch.Proofs.Url.Canonical

/-!
# One record for each page

A list of records is gone through once, and what has been seen is carried along. Two equations say
all that this comes to. One is a closed form: the pages in the order in which they first occur, each
with its first record. The other one is about two lists in a row, of which the second keeps the
pages that the first does not have. Neither speaks of what has been seen, so duplicates can be left
out of parts before they are put together, or of the whole.

## Main definitions

* `firstRecord?`: the record that stands for a page.
* `Record.isOnPage`: the pages that are not left out.

## Main results

* `filter_uniqueAfter`: records of some pages are left out before duplicates are or after them.
* `unique_append`: two lists in a row.
* `unique_batchwise`: the closed form, and leaving out duplicates batch by batch.
-/

namespace Metasearch

variable {seen seen' : List String} {p : String → Bool} {a b records rest : List Record}
  {r : Record} {u v : String}

/-! ### Leaving out pages -/

/-- Holds of a record of a page that is not left out. -/
def Record.isOnPage (p : String → Bool) (r : Record) : Bool :=
  (Url.canonicalHref? r.url).any p

/-- It does not matter which pages that are left out have been seen. -/
theorem filter_uniqueAfter (h : ∀ u, p u = true → (u ∈ seen ↔ u ∈ seen'))
    (records : List Record) :
    (uniqueAfter seen records).filter (fun r => p r.url) =
      uniqueAfter seen' (records.filter (Record.isOnPage p)) := by
  induction records generalizing seen seen' with
  | nil => rfl
  | cons r rest ih =>
    cases hr : Url.canonicalHref? r.url with
    | none =>
      have hpage : ¬r.isOnPage p = true := by simp [Record.isOnPage, hr]
      rw [uniqueAfter_of_none hr, List.filter_cons_of_neg hpage, ih h]
    | some u =>
      have hpage : r.isOnPage p = p u := by simp [Record.isOnPage, hr]
      cases hu : p u with
      | true =>
        rw [List.filter_cons_of_pos (hpage.trans hu)]
        by_cases hs : u ∈ seen
        · rw [uniqueAfter_of_mem hr hs, uniqueAfter_of_mem hr ((h u hu).mp hs), ih h]
        · have hs' : u ∉ seen' := fun hmem => hs ((h u hu).mpr hmem)
          have hseen : ∀ v, p v = true → (v ∈ u :: seen ↔ v ∈ u :: seen') := by
            intro v hv
            rw [List.mem_cons, List.mem_cons, h v hv]
          rw [uniqueAfter_of_notMem hr hs, uniqueAfter_of_notMem hr hs',
            List.filter_cons_of_pos (by exact hu), ih hseen]
      | false =>
        rw [List.filter_cons_of_neg (by rw [hpage, hu]; exact Bool.false_ne_true)]
        by_cases hs : u ∈ seen
        · rw [uniqueAfter_of_mem hr hs, ih h]
        · -- the page is left out later, so taking its first record now makes no difference
          have hseen : ∀ v, p v = true → (v ∈ u :: seen ↔ v ∈ seen') := by
            intro v hv
            have hvu : v ≠ u := by
              rintro rfl
              rw [hu] at hv
              exact Bool.false_ne_true hv
            rw [List.mem_cons, or_iff_right hvu, h v hv]
          rw [uniqueAfter_of_notMem hr hs, List.filter_cons_of_neg (by simp [hu]), ih hseen]

/-- Pages that have been seen can be left out afterwards just as well. -/
theorem uniqueAfter_eq_filter (seen : List String) (records : List Record) :
    uniqueAfter seen records = (unique records).filter fun r => r.url ∉ seen := by
  have hself : (uniqueAfter seen records).filter (fun r => decide (r.url ∉ seen)) =
      uniqueAfter seen records := by
    refine List.filter_eq_self.mpr fun x hx => decide_eq_true ?_
    exact ((mem_map_url_uniqueAfter _ _ _).mp (List.mem_map_of_mem hx)).2
  have hseen : ∀ u, decide (u ∉ seen) = true → (u ∈ seen ↔ u ∈ ([] : List String)) := by
    intro u hu
    exact iff_of_false (of_decide_eq_true hu) List.not_mem_nil
  rw [← hself, filter_uniqueAfter hseen, unique]
  exact (filter_uniqueAfter (fun _ _ => Iff.rfl) records).symm

/-! ### The closed form -/

/-- The first record of a page, with the page's URL in the place of its own. -/
def firstRecord? (records : List Record) (u : String) : Option Record :=
  (records.find? fun r => Url.canonicalHref? r.url == some u).map fun r => { r with url := u }

theorem firstRecord?_cons_of_eq (h : Url.canonicalHref? r.url = some u) :
    firstRecord? (r :: rest) u = some { r with url := u } := by
  simp [firstRecord?, h]

theorem firstRecord?_cons_of_ne (h : Url.canonicalHref? r.url ≠ some u) :
    firstRecord? (r :: rest) u = firstRecord? rest u := by
  simp [firstRecord?, h]

/-- The pages in the order in which they first occur, each with its first record. The pages that
have been seen do not count. -/
theorem uniqueAfter_eq_filterMap (seen : List String) (records : List Record) :
    uniqueAfter seen records = ((canonicalUrls records).filter (· ∉ seen)).eraseDups.filterMap
      (firstRecord? records) := by
  induction records generalizing seen with
  | nil => rfl
  | cons r rest ih =>
    -- a record is the first one of its own page, and makes no difference to the other pages
    have hskip : ∀ l : List String, (∀ u ∈ l, Url.canonicalHref? r.url ≠ some u) →
        l.filterMap (firstRecord? rest) = l.filterMap (firstRecord? (r :: rest)) := by
      intro l hl
      exact List.filterMap_congr fun u hu => (firstRecord?_cons_of_ne (hl u hu)).symm
    cases hr : Url.canonicalHref? r.url with
    | none =>
      rw [uniqueAfter_of_none hr, canonicalUrls_of_none hr, ih]
      refine hskip _ fun u hu => ?_
      simp [hr]
    | some v =>
      rw [canonicalUrls_of_some hr]
      by_cases hv : v ∈ seen
      · rw [uniqueAfter_of_mem hr hv, ih, List.filter_cons_of_neg (by simpa using hv)]
        refine hskip _ fun u hu => ?_
        have hu : u ∉ seen := by simpa using (List.mem_filter.mp (List.mem_eraseDups.mp hu)).2
        rintro heq
        exact hu (Option.some.inj (hr.symm.trans heq) ▸ hv)
      · have hrest : ((canonicalUrls rest).filter (· ∉ v :: seen)) =
            ((canonicalUrls rest).filter (· ∉ seen)).filter fun u => !u == v := by
          rw [List.filter_filter]
          refine List.filter_congr fun u _ => ?_
          simp [← Bool.beq_eq_decide_eq]
        rw [uniqueAfter_of_notMem hr hv, List.filter_cons_of_pos (by simpa using hv),
          List.eraseDups_cons, List.filterMap_cons_some (firstRecord?_cons_of_eq hr), ih, hrest]
        refine congrArg ({ r with url := v } :: ·) (hskip _ fun u hu => ?_)
        have hu : u ≠ v := by simpa using (List.mem_filter.mp (List.mem_eraseDups.mp hu)).2
        rintro heq
        exact hu (Option.some.inj (hr.symm.trans heq)).symm

theorem unique_eq_filterMap (records : List Record) :
    unique records = (canonicalUrls records).eraseDups.filterMap (firstRecord? records) := by
  have hall : (canonicalUrls records).filter (· ∉ ([] : List String)) = canonicalUrls records := by
    simp
  rw [unique, uniqueAfter_eq_filterMap, hall]

/-- Each page has a first record. -/
theorem exists_firstRecord? (h : u ∈ canonicalUrls records) :
    ∃ r, firstRecord? records u = some r ∧ r.url = u := by
  obtain ⟨r, hr, hu⟩ := List.mem_filterMap.mp h
  cases hfind : records.find? fun r => Url.canonicalHref? r.url == some u with
  | none => exact absurd hu (by simpa using List.find?_eq_none.mp hfind r hr)
  | some x => exact ⟨{ x with url := u }, by rw [firstRecord?, hfind]; rfl, rfl⟩

theorem map_url_unique (records : List Record) :
    (unique records).map Record.url = (canonicalUrls records).eraseDups := by
  have hmap : ∀ l : List String, (∀ u ∈ l, u ∈ canonicalUrls records) →
      (l.filterMap (firstRecord? records)).map Record.url = l := by
    intro l hl
    induction l with
    | nil => rfl
    | cons u l ih =>
      obtain ⟨r, hr, hu⟩ := exists_firstRecord? (hl u List.mem_cons_self)
      rw [List.filterMap_cons_some hr, List.map_cons, hu,
        ih fun v hv => hl v (List.mem_cons_of_mem u hv)]
  rw [unique_eq_filterMap]
  exact hmap _ fun u hu => List.mem_eraseDups.mp hu

/-! ### Two lists in a row -/

theorem uniqueAfter_append (seen : List String) (a b : List Record) :
    uniqueAfter seen (a ++ b) =
      uniqueAfter seen a ++ (unique b).filter fun r => r.url ∉ seen ++ canonicalUrls a := by
  induction a generalizing seen with
  | nil =>
    show uniqueAfter seen b = [] ++ (unique b).filter fun r => r.url ∉ seen ++ []
    rw [List.nil_append, List.append_nil, uniqueAfter_eq_filter]
  | cons r a ih =>
    rw [List.cons_append]
    cases hr : Url.canonicalHref? r.url with
    | none => rw [uniqueAfter_of_none hr, uniqueAfter_of_none hr, canonicalUrls_of_none hr, ih]
    | some v =>
      rw [canonicalUrls_of_some hr]
      by_cases hv : v ∈ seen
      · rw [uniqueAfter_of_mem hr hv, uniqueAfter_of_mem hr hv, ih]
        congr 1
        refine List.filter_congr fun x _ => ?_
        have hseen : x.url = v → x.url ∈ seen := by
          rintro rfl
          exact hv
        simp only [List.mem_append, List.mem_cons, decide_eq_decide]
        tauto
      · rw [uniqueAfter_of_notMem hr hv, uniqueAfter_of_notMem hr hv, ih, List.cons_append]
        congr 2
        refine List.filter_congr fun x _ => ?_
        simp only [List.mem_append, List.mem_cons, decide_eq_decide]
        tauto

/-- **Of two lists in a row, the second keeps the pages that the first does not have.** -/
theorem unique_append (a b : List Record) :
    unique (a ++ b) = unique a ++ (unique b).filter fun r => r.url ∉ canonicalUrls a :=
  uniqueAfter_append [] a b

/-- Different pages under their canonical URLs are left alone. -/
theorem unique_eq_self (hurl : ∀ r ∈ a, Url.canonicalHref? r.url = some r.url)
    (hn : (a.map Record.url).Nodup) : unique a = a := by
  induction a with
  | nil => rfl
  | cons r a ih =>
    rw [List.map_cons, List.nodup_cons] at hn
    have hr := hurl r List.mem_cons_self
    have hrest : unique a = a := ih (fun x hx => hurl x (List.mem_cons_of_mem r hx)) hn.2
    rw [unique, uniqueAfter_of_notMem hr List.not_mem_nil, uniqueAfter_eq_filter, hrest]
    refine congrArg (r :: ·) (List.filter_eq_self.mpr fun x hx => ?_)
    have hne : x.url ≠ r.url := fun heq => hn.1 (heq ▸ List.mem_map_of_mem hx)
    simpa using hne

theorem canonicalHref?_of_mem_unique (h : r ∈ unique records) :
    Url.canonicalHref? r.url = some r.url := by
  obtain ⟨x, -, hurl, -⟩ := mem_uniqueAfter h
  exact Url.canonicalHref?_canonicalHref? hurl

theorem unique_unique (records : List Record) : unique (unique records) = unique records :=
  unique_eq_self (fun _ h => canonicalHref?_of_mem_unique h) (nodup_map_url_unique records)

/-- What is left has the same pages. -/
theorem mem_canonicalUrls_unique (records : List Record) (u : String) :
    u ∈ canonicalUrls (unique records) ↔ u ∈ canonicalUrls records := by
  have hself : canonicalUrls (unique records) = (unique records).map Record.url := by
    rw [canonicalUrls, ← List.filterMap_eq_map]
    exact List.filterMap_congr fun r hr => canonicalHref?_of_mem_unique hr
  rw [hself, map_url_unique, List.mem_eraseDups]

/-- **Duplicates are left out batch by batch.** What is left is one record for each page, in the
order in which the pages first occur. It is the first one that was delivered, and only its URL is
new. To leave out duplicates once more changes nothing, and it makes no difference whether they are
left out of one part or the other before the parts are put together. More records change nothing of
what is left of the ones before. -/
theorem unique_batchwise (a b : List Record) :
    (unique a).map Record.url = (canonicalUrls a).eraseDups ∧
      unique a = (canonicalUrls a).eraseDups.filterMap (firstRecord? a) ∧
      unique (unique a) = unique a ∧
      unique (unique a ++ b) = unique (a ++ b) ∧
      unique (a ++ unique b) = unique (a ++ b) ∧
      unique a <+: unique (a ++ b) := by
  refine ⟨map_url_unique a, unique_eq_filterMap a, unique_unique a, ?_, ?_, ?_⟩
  · rw [unique_append, unique_append, unique_unique]
    simp only [mem_canonicalUrls_unique]
  · rw [unique_append, unique_append, unique_unique]
  · rw [unique_append]
    exact List.prefix_append _ _

end Metasearch
