import Metasearch.Proofs.Registry

/-!
# The order of a resolution

The adapters that a query reaches stand in the order in which it asks for them. When it names
sources, that is the order of the names. When it does not, each adapter stands where the first of
its categories does, and adapters that come in by one category are in the order of registration.

Resolution itself only knows of candidates, each of which may be there several times, and keeps the
first one of each id. So two facts are put together here: what is kept is in the order of its first
places among the candidates, and first places among the candidates are in the order in which the
query asks.

## Main definitions

* `Query.asksFor`, `Query.placeOf`: which adapters a query asks for, and in which of its places.
* `Registry.IsResolution`: what the adapters that a query reaches have to be.

## Main results

* `pairwise_idxOf_firsts`: what is kept is in the order of first places.
* `IsResolution.eq`: there is one resolution only.
* `resolve_repeated_source`, `resolve_repeated_category`, `resolve_settle`: repetitions make no
  difference.
* `isResolution_iff_eq_resolve`.
-/

namespace Metasearch

/-! ### What is asked for -/

namespace Query

/-- Holds of the adapters that a query asks for: those that it names, or else those that are listed
under one of its categories. -/
def asksFor (q : Query) (a : Adapter) : Prop :=
  if q.sources = [] then ∃ c ∈ q.effectiveCategories, a.isListedUnder c = true
  else a.id ∈ q.sources

/-- The first place in a query at which it asks for an adapter. -/
def placeOf (q : Query) (a : Adapter) : Nat :=
  if q.sources = [] then q.effectiveCategories.findIdx a.isListedUnder
  else q.sources.idxOf a.id

theorem effectiveCategories_of_ne {q : Query} (h : q.categories ≠ []) :
    q.effectiveCategories = q.categories := by
  rw [effectiveCategories, if_neg (by simpa using h)]

end Query

namespace Registry

variable {seen : List String} {l : List Adapter} {a b : Adapter} {r : Registry}
  {q : Query} {c : Category}

/-- What the adapters that a query reaches have to be, given all adapters in the order of their
registration. -/
structure IsResolution (adapters : List Adapter) (q : Query) (l : List Adapter) : Prop where
  /-- No adapter is there twice. -/
  nodup : (l.map Adapter.id).Nodup
  /-- The adapters are those that are enabled and asked for. -/
  mem_iff : ∀ a, a ∈ l ↔ a ∈ adapters ∧ a.source.enabled = true ∧ q.asksFor a
  /-- They are in the order in which the query asks for them, and then in that of registration. -/
  ordered : l.Pairwise fun a b => q.placeOf a < q.placeOf b ∨
    q.placeOf a = q.placeOf b ∧
      (adapters.map Adapter.id).idxOf a.id < (adapters.map Adapter.id).idxOf b.id

/-- **There is one resolution only.** -/
theorem IsResolution.eq {adapters l' : List Adapter} (h : IsResolution adapters q l)
    (h' : IsResolution adapters q l') : l = l' := by
  have hperm : l.Perm l' := by
    refine (List.perm_ext_iff_of_nodup h.nodup.of_map h'.nodup.of_map).mpr fun a => ?_
    rw [h.mem_iff, h'.mem_iff]
  refine hperm.eq_of_pairwise (fun a b _ _ hab hba => ?_) h.ordered h'.ordered
  omega

/-! ### First places -/

theorem idxOf_lt_of_filter {p : String → Bool} {xs : List String} {x y : String} (hx : p x = true)
    (hy : p y = true) (h : (xs.filter p).idxOf x < (xs.filter p).idxOf y) :
    xs.idxOf x < xs.idxOf y := by
  induction xs with
  | nil => simp at h
  | cons z rest ih =>
    by_cases hz : p z = true
    · rw [List.filter_cons_of_pos hz] at h
      rw [List.idxOf_cons, List.idxOf_cons] at h ⊢
      grind
    · have hzx : z ≠ x := fun heq => hz (heq ▸ hx)
      have hzy : z ≠ y := fun heq => hz (heq ▸ hy)
      rw [List.filter_cons_of_neg hz] at h
      rw [List.idxOf_cons_ne _ hzx, List.idxOf_cons_ne _ hzy]
      exact Nat.succ_lt_succ (ih h)

/-- **What is kept is in the order of first places.** -/
theorem pairwise_idxOf_firsts (seen : List String) (l : List Adapter) :
    (firsts seen l).Pairwise fun a b =>
      (l.map Adapter.id).idxOf a.id < (l.map Adapter.id).idxOf b.id := by
  induction l generalizing seen with
  | nil => exact List.Pairwise.nil
  | cons c rest ih =>
    -- whatever is kept of the rest has another id than `c`, so its place moves on by one
    have hstep : ∀ seen, c.id ∈ seen → (firsts seen rest).Pairwise fun a b =>
        ((c :: rest).map Adapter.id).idxOf a.id < ((c :: rest).map Adapter.id).idxOf b.id := by
      intro seen hc
      refine (ih seen).imp_of_mem fun {a b} ha hb hab => ?_
      have hca : c.id ≠ a.id := fun heq => id_notMem_of_mem_firsts ha (heq ▸ hc)
      have hcb : c.id ≠ b.id := fun heq => id_notMem_of_mem_firsts hb (heq ▸ hc)
      rw [List.map_cons, List.idxOf_cons_ne _ hca, List.idxOf_cons_ne _ hcb]
      exact Nat.succ_lt_succ hab
    rw [firsts]
    split
    · rename_i hc
      exact hstep seen hc
    · refine List.pairwise_cons.mpr ⟨fun b hb => ?_, hstep _ List.mem_cons_self⟩
      have hcb : c.id ≠ b.id := fun heq =>
        id_notMem_of_mem_firsts hb (heq ▸ List.mem_cons_self)
      rw [List.map_cons, List.idxOf_cons_self, List.idxOf_cons_ne _ hcb]
      exact Nat.succ_pos _

/-! ### Candidates

The ids of candidates are ids of a longer list, out of which some are picked: the names in the
query, or all ids of the registry. -/

theorem map_id_filterMap_get? (ids : List String) (p : Adapter → Bool) :
    ((ids.filterMap r.get?).filter p).map Adapter.id = ids.filter fun x => (r.get? x).any p := by
  induction ids with
  | nil => rfl
  | cons x rest ih =>
    cases hx : r.get? x with
    | none => simp [hx, ih]
    | some a =>
      have hid : a.id = x := id_of_get? hx
      cases hp : p a <;> simp [hx, hp, hid, ih]

theorem filterMap_get?_ids (r : Registry) :
    (r.adapters.map Adapter.id).filterMap r.get? = r.adapters := by
  rw [List.filterMap_map]
  refine (List.filterMap_congr fun a ha => ?_).trans List.filterMap_some
  exact get?_id ha

theorem map_id_filter_adapters (r : Registry) (p : Adapter → Bool) :
    (r.adapters.filter p).map Adapter.id =
      (r.adapters.map Adapter.id).filter fun x => (r.get? x).any p := by
  rw [← map_id_filterMap_get?, filterMap_get?_ids]

theorem candidates_of_sources (h : q.sources ≠ []) :
    r.candidates q = q.sources.filterMap r.get? := by
  rw [candidates, if_neg (by simpa using h)]

theorem candidates_of_categories (h : q.sources = []) :
    r.candidates q = q.effectiveCategories.flatMap r.ofCategory := by
  rw [candidates, if_pos (by simpa using h)]

theorem mem_candidates : a ∈ r.candidates q ↔ a ∈ r.adapters ∧ q.asksFor a := by
  rw [Query.asksFor]
  split
  · rename_i h
    rw [candidates_of_categories h]
    simp only [List.mem_flatMap, ofCategory_eq_filter, List.mem_filter]
    constructor
    · rintro ⟨c, hc, ha, hlisted⟩
      exact ⟨ha, c, hc, hlisted⟩
    · rintro ⟨ha, c, hc, hlisted⟩
      exact ⟨c, hc, ha, hlisted⟩
  · rename_i h
    rw [candidates_of_sources h, List.mem_filterMap]
    constructor
    · rintro ⟨id, hid, hget⟩
      rw [id_of_get? hget]
      exact ⟨mem_adapters_of_get? hget, hid⟩
    · rintro ⟨ha, hid⟩
      exact ⟨a.id, hid, get?_id ha⟩

/-! ### The order of candidates -/

/-- The ids of adapters that are enabled. -/
def enabledIds (l : List Adapter) : List String :=
  (l.filter fun a => a.source.enabled).map Adapter.id

theorem enabledIds_append (l l' : List Adapter) :
    enabledIds (l ++ l') = enabledIds l ++ enabledIds l' := by
  simp [enabledIds]

/-- Holds of the ids of enabled adapters that are listed under a category. -/
def isEnabledUnder (r : Registry) (c : Category) (id : String) : Bool :=
  (r.get? id).any fun a => a.source.enabled && a.isListedUnder c

theorem isEnabledUnder_id (ha : a ∈ r.adapters) (he : a.source.enabled = true) (c : Category) :
    r.isEnabledUnder c a.id = a.isListedUnder c := by
  simp [isEnabledUnder, get?_id ha, he]

theorem enabledIds_ofCategory (r : Registry) (c : Category) :
    enabledIds (r.ofCategory c) = (r.adapters.map Adapter.id).filter (r.isEnabledUnder c) := by
  rw [enabledIds, ofCategory_eq_filter, List.filter_filter, map_id_filter_adapters]
  rfl

theorem id_mem_enabledIds_iff (ha : a ∈ r.adapters) (he : a.source.enabled = true) :
    a.id ∈ enabledIds (r.ofCategory c) ↔ a.isListedUnder c = true := by
  rw [enabledIds_ofCategory, List.mem_filter, isEnabledUnder_id ha he]
  exact and_iff_right (List.mem_map_of_mem ha)

/-- Adapters come in by their first categories, and by one category in the order of
registration. -/
theorem findIdx_lt_of_idxOf_lt {categories : List Category} (ha : a ∈ r.adapters)
    (hb : b ∈ r.adapters) (hae : a.source.enabled = true) (hbe : b.source.enabled = true)
    (h : (enabledIds (categories.flatMap r.ofCategory)).idxOf a.id <
      (enabledIds (categories.flatMap r.ofCategory)).idxOf b.id) :
    categories.findIdx a.isListedUnder < categories.findIdx b.isListedUnder ∨
      categories.findIdx a.isListedUnder = categories.findIdx b.isListedUnder ∧
        (r.adapters.map Adapter.id).idxOf a.id < (r.adapters.map Adapter.id).idxOf b.id := by
  induction categories with
  | nil => simp [enabledIds] at h
  | cons c rest ih =>
    have hblocka := id_mem_enabledIds_iff (c := c) ha hae
    have hblockb := id_mem_enabledIds_iff (c := c) hb hbe
    rw [List.flatMap_cons, enabledIds_append, List.idxOf_append, List.idxOf_append] at h
    rw [List.findIdx_cons, List.findIdx_cons]
    by_cases hac : a.isListedUnder c = true
    · by_cases hbc : b.isListedUnder c = true
      · -- both come in by `c`, which picks them from the registry
        rw [if_pos (hblocka.mpr hac), if_pos (hblockb.mpr hbc), enabledIds_ofCategory] at h
        refine Or.inr ⟨by simp [hac, hbc], idxOf_lt_of_filter ?_ ?_ h⟩
        · rw [isEnabledUnder_id ha hae, hac]
        · rw [isEnabledUnder_id hb hbe, hbc]
      · exact Or.inl (by simp [hac, hbc])
    · rw [if_neg (fun hmem => hac (hblocka.mp hmem))] at h
      by_cases hbc : b.isListedUnder c = true
      · have hlt := List.idxOf_lt_length_of_mem (hblockb.mpr hbc)
        rw [if_pos (hblockb.mpr hbc)] at h
        omega
      · rw [if_neg (fun hmem => hbc (hblockb.mp hmem))] at h
        simpa [hac, hbc] using ih (by omega)

/-- Candidates are in the order in which the query asks for them. -/
theorem placeOf_lt_of_idxOf_lt (ha : a ∈ r.adapters) (hb : b ∈ r.adapters)
    (hae : a.source.enabled = true) (hbe : b.source.enabled = true)
    (h : (enabledIds (r.candidates q)).idxOf a.id < (enabledIds (r.candidates q)).idxOf b.id) :
    q.placeOf a < q.placeOf b ∨ q.placeOf a = q.placeOf b ∧
      (r.adapters.map Adapter.id).idxOf a.id < (r.adapters.map Adapter.id).idxOf b.id := by
  rw [Query.placeOf, Query.placeOf]
  by_cases hq : q.sources = []
  · rw [candidates_of_categories hq] at h
    rw [if_pos hq, if_pos hq]
    exact findIdx_lt_of_idxOf_lt ha hb hae hbe h
  · rw [candidates_of_sources hq, enabledIds, map_id_filterMap_get?] at h
    rw [if_neg hq, if_neg hq]
    refine Or.inl (idxOf_lt_of_filter ?_ ?_ h)
    · simp [get?_id ha, hae]
    · simp [get?_id hb, hbe]

theorem isResolution_resolve (r : Registry) (q : Query) :
    IsResolution r.adapters q (r.resolve q) := by
  refine ⟨nodup_resolve r q, fun a => ?_, ?_⟩
  · rw [mem_resolve, mem_candidates]
    tauto
  · refine (pairwise_idxOf_firsts [] _).imp_of_mem fun {a b} ha hb hab => ?_
    obtain ⟨hac, hae⟩ := mem_resolve.mp ha
    obtain ⟨hbc, hbe⟩ := mem_resolve.mp hb
    exact placeOf_lt_of_idxOf_lt (mem_adapters_of_mem_candidates hac)
      (mem_adapters_of_mem_candidates hbc) hae hbe hab

/-! ### Repetitions -/

/-- What has been seen, or stands before, can be left out. -/
theorem firsts_append_of_seen {m : List Adapter} (n : List Adapter)
    (h : ∀ b ∈ m, b ∈ l ∨ b.id ∈ seen) : firsts seen (l ++ (m ++ n)) = firsts seen (l ++ n) := by
  induction l generalizing seen with
  | nil =>
    induction m with
    | nil => rfl
    | cons b m ih =>
      have hb : b.id ∈ seen := by simpa using h b List.mem_cons_self
      rw [List.nil_append, List.cons_append, firsts, if_pos hb]
      exact ih fun x hx => h x (List.mem_cons_of_mem b hx)
  | cons a l ih =>
    rw [List.cons_append, List.cons_append, firsts, firsts]
    split
    · rename_i ha
      refine ih fun b hb => ?_
      rcases h b hb with hmem | hs
      · rcases List.mem_cons.mp hmem with rfl | hmem
        · exact Or.inr ha
        · exact Or.inl hmem
      · exact Or.inr hs
    · refine congrArg (a :: ·) (ih fun b hb => ?_)
      rcases h b hb with hmem | hs
      · rcases List.mem_cons.mp hmem with rfl | hmem
        · exact Or.inr List.mem_cons_self
        · exact Or.inl hmem
      · exact Or.inr (List.mem_cons_of_mem _ hs)

/-- Candidates that stand before can be left out. -/
theorem resolve_eq_of_candidates {q q' : Query} (front m back : List Adapter)
    (h : r.candidates q = front ++ (m ++ back)) (h' : r.candidates q' = front ++ back)
    (hm : ∀ b ∈ m, b ∈ front) : r.resolve q = r.resolve q' := by
  rw [resolve, resolve, h, h']
  simp only [List.filter_append]
  refine firsts_append_of_seen _ fun b hb => Or.inl ?_
  rw [List.mem_filter] at hb ⊢
  exact ⟨hm b hb.1, hb.2⟩

/-- **A source that is named again makes no difference.** -/
theorem resolve_repeated_source (r : Registry) (q : Query) {front : List String} {id : String}
    (h : id ∈ front) (back : List String) :
    r.resolve { q with sources := front ++ id :: back } =
      r.resolve { q with sources := front ++ back } := by
  have hne : front ≠ [] := List.ne_nil_of_mem h
  refine resolve_eq_of_candidates (front.filterMap r.get?) ([id].filterMap r.get?)
    (back.filterMap r.get?) ?_ ?_ ?_
  · rw [candidates_of_sources (by simp [hne]), ← List.filterMap_append, ← List.filterMap_append]
    rfl
  · rw [candidates_of_sources (by simp [hne]), ← List.filterMap_append]
  · intro b hb
    obtain ⟨x, hx, hb⟩ := List.mem_filterMap.mp hb
    exact List.mem_filterMap.mpr ⟨x, List.mem_singleton.mp hx ▸ h, hb⟩

/-- **A category that is named again makes no difference.** -/
theorem resolve_repeated_category (r : Registry) (q : Query) {front : List Category}
    {c : Category} (h : c ∈ front) (back : List Category) :
    r.resolve { q with categories := front ++ c :: back } =
      r.resolve { q with categories := front ++ back } := by
  let asking (categories : List Category) : Query := { q with categories }
  change r.resolve (asking (front ++ c :: back)) = r.resolve (asking (front ++ back))
  by_cases hq : q.sources = []
  · have hasking : ∀ categories, categories ≠ [] →
        r.candidates (asking categories) = categories.flatMap r.ofCategory := by
      intro categories hne
      have hsources : (asking categories).sources = [] := hq
      have hcategories : (asking categories).categories ≠ [] := hne
      rw [candidates_of_categories hsources, Query.effectiveCategories_of_ne hcategories]
    have hne : front ≠ [] := List.ne_nil_of_mem h
    refine resolve_eq_of_candidates (front.flatMap r.ofCategory) (r.ofCategory c)
      (back.flatMap r.ofCategory) ?_ ?_ ?_
    · rw [hasking _ (by simp), List.flatMap_append, List.flatMap_cons]
    · rw [hasking _ (by simp [hne]), List.flatMap_append]
    · intro b hb
      exact List.mem_flatMap.mpr ⟨c, h, hb⟩
  · have hasking : ∀ categories, r.candidates (asking categories) = q.sources.filterMap r.get? := by
      intro categories
      exact candidates_of_sources hq
    rw [resolve, resolve, hasking, hasking]

/-- Only the sources and the categories that count make a difference. -/
theorem resolve_congr {q' : Query} (hs : q.sources = q'.sources)
    (hc : q.effectiveCategories = q'.effectiveCategories) : r.resolve q = r.resolve q' := by
  rw [resolve, resolve, candidates, candidates, hs, hc]

/-- Categories reach the same adapters when repetitions are left out. -/
theorem resolve_settle (r : Registry) (q : Query) :
    r.resolve { q with categories := Query.settle q.categories } = r.resolve q := by
  let step (l : List Category) (c : Category) : List Category :=
    if l.contains c then l else l ++ [c]
  have hfold : ∀ done rest, r.resolve { q with categories := rest.foldl step done } =
      r.resolve { q with categories := done ++ rest } := by
    intro done rest
    induction rest generalizing done with
    | nil => rw [List.append_nil]; rfl
    | cons c rest ih =>
      rw [List.foldl_cons, ih]
      by_cases hc : c ∈ done
      · have hstep : step done c = done := if_pos (List.contains_iff_mem.mpr hc)
        rw [hstep]
        exact (resolve_repeated_category r q hc rest).symm
      · have hstep : step done c = done ++ [c] :=
          if_neg fun hmem => hc (List.contains_iff_mem.mp hmem)
        rw [hstep, List.append_assoc, List.singleton_append]
  refine Eq.trans ?_ (hfold [] q.categories)
  rw [Query.settle]
  split
  · -- no category counts as the general one
    rename_i hnil
    change q.categories.foldl step [] = [] at hnil
    rw [hnil]
    exact resolve_congr rfl rfl
  · rfl

/-! ### The law -/

/-- **A query reaches the adapters that it asks for, in the order in which it asks.** Whatever it
names, known or not, often or once, there is one list of different adapters that are enabled and
asked for, in the order of their first places in the query and, by one category, of registration.
That list is what the query reaches. Naming a source or a category once more changes nothing. -/
theorem isResolution_iff_eq_resolve {adapters : List Adapter} (h : ofAdapters adapters = .ok r)
    (q : Query) :
    (∀ l, IsResolution adapters q l ↔ l = r.resolve q) ∧
      (∀ front id back, id ∈ front →
        r.resolve { q with sources := front ++ id :: back } =
          r.resolve { q with sources := front ++ back }) ∧
      ∀ front c back, c ∈ front →
        r.resolve { q with categories := front ++ c :: back } =
          r.resolve { q with categories := front ++ back } := by
  have hresolve := isResolution_resolve r q
  rw [adapters_of_ofAdapters h] at hresolve
  refine ⟨fun l => ⟨fun hl => hl.eq hresolve, ?_⟩, ?_, ?_⟩
  · rintro rfl
    exact hresolve
  · intro front id back hid
    exact resolve_repeated_source r q hid back
  · intro front c back hc
    exact resolve_repeated_category r q hc back

/-- A disabled source, one that is listed under the unknown category, and one under several. -/
theorem isResolution_iff_eq_resolve_overlap :
    let adapter (id : String) (categories : List Category) (enabled : Bool) : Adapter :=
      ⟨{ Source.make id .searx (Template.ofUrl "http://1.2.3.4/") with categories, enabled },
        fun _ => .inside ⟨some 0, .done []⟩⟩
    let adapters := [adapter "a" [.general, .news, .general] true, adapter "b" [.news] false,
      adapter "c" [.unknown, .code] true, adapter "d" [.news] true]
    let r : Registry := ⟨adapters, by decide⟩
    let q := { Query.ofTerms "x" with categories := [.code, .unknown, .news] ++ [.general] }
    let named := { q with sources := ["d", "e", "b"] ++ ["a"] }
    ofAdapters adapters = .ok r ∧
      IsResolution adapters q (r.resolve q) ∧
      (r.resolve q).map Adapter.id = ["c", "a", "d"] ∧
      r.resolve { q with categories := [.code, .unknown, .news] ++ .code :: [.general] } =
        r.resolve q ∧
      IsResolution adapters named (r.resolve named) ∧
      (r.resolve named).map Adapter.id = ["d", "a"] ∧
      r.resolve { named with sources := ["d", "e", "b"] ++ "d" :: ["a"] } = r.resolve named := by
  intro adapter adapters r q named
  have h : ofAdapters adapters = .ok r := ofAdapters_of_nodup r.distinct
  obtain ⟨hq, -, hcategory⟩ := isResolution_iff_eq_resolve h q
  obtain ⟨hnamed, hsource, -⟩ := isResolution_iff_eq_resolve h named
  refine ⟨h, (hq _).mpr rfl, by decide, ?_, (hnamed _).mpr rfl, by decide, ?_⟩
  · exact hcategory _ .code _ (by decide)
  · exact hsource _ "d" _ (by decide)

end Registry
end Metasearch
