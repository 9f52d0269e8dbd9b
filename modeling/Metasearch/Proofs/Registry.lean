import Mathlib.Data.List.Forall2
import Mathlib.Data.List.Nodup
import Metasearch.Proofs.Registry.Index
import Metasearch.Service

/-!
# What a query reaches

Resolution goes through a list of candidates with repetitions and keeps the first of each id. What
it keeps is told by ids, so the facts here are about lists of ids; they pass to adapters since no
two adapters of a registry have the same id.

## Main results

* `nodup_resolve`: each adapter is reached once.
* `mem_resolve`: which ones are.
* `map_source_resolve`: resolution sees the sources of adapters, not what they do.
* `Service.nodup_reached`: each adapter is asked once in a call.
-/

namespace Metasearch.Registry

variable {seen : List String} {l : List Adapter} {a b : Adapter} {r r' : Registry} {q : Query}

/-! ### Each one once -/

theorem firsts_sublist (seen : List String) (l : List Adapter) : (firsts seen l).Sublist l := by
  induction l generalizing seen with
  | nil => exact .slnil
  | cons a rest ih =>
    rw [firsts]
    split
    · exact (ih seen).cons a
    · exact (ih (a.id :: seen)).cons_cons a

theorem id_notMem_of_mem_firsts (h : a ∈ firsts seen l) : a.id ∉ seen := by
  induction l generalizing seen with
  | nil => exact absurd h List.not_mem_nil
  | cons b rest ih =>
    rw [firsts] at h
    split at h
    · exact ih h
    · rename_i hb
      rcases List.mem_cons.mp h with rfl | h
      · exact hb
      · exact fun ha => ih h (List.mem_cons_of_mem _ ha)

theorem nodup_firsts (seen : List String) (l : List Adapter) :
    ((firsts seen l).map Adapter.id).Nodup := by
  induction l generalizing seen with
  | nil => exact List.nodup_nil
  | cons a rest ih =>
    rw [firsts]
    split
    · exact ih seen
    · rw [List.map_cons, List.nodup_cons]
      refine ⟨?_, ih _⟩
      intro hmem
      obtain ⟨b, hb, hid⟩ := List.mem_map.mp hmem
      exact id_notMem_of_mem_firsts hb (hid ▸ List.mem_cons_self)

theorem exists_mem_firsts (h : a ∈ l) (hs : a.id ∉ seen) : ∃ b ∈ firsts seen l, b.id = a.id := by
  induction l generalizing seen with
  | nil => exact absurd h List.not_mem_nil
  | cons c rest ih =>
    rw [firsts]
    rcases List.mem_cons.mp h with rfl | h
    · rw [if_neg hs]
      exact ⟨a, List.mem_cons_self, rfl⟩
    · split
      · exact ih h hs
      · by_cases hc : a.id = c.id
        · exact ⟨c, List.mem_cons_self, hc.symm⟩
        · obtain ⟨b, hb, hid⟩ := ih h (List.not_mem_cons_of_ne_of_not_mem hc hs)
          exact ⟨b, List.mem_cons_of_mem _ hb, hid⟩

/-- Without repetitions, an id picks one adapter at most. -/
theorem filter_id_of_nodup (h : (l.map Adapter.id).Nodup) (x : String) :
    (l.filter fun a => a.id == x) = (l.find? fun a => a.id == x).toList := by
  induction l with
  | nil => rfl
  | cons a rest ih =>
    rw [List.map_cons, List.nodup_cons] at h
    by_cases ha : a.id = x
    · have hrest : (rest.filter fun b => b.id == x) = [] := by
        rw [List.filter_eq_nil_iff]
        intro b hb hx
        exact h.1 (List.mem_map.mpr ⟨b, hb, by rw [ha]; exact eq_of_beq hx⟩)
      simp [ha, hrest]
    · simpa [ha] using ih h.2

theorem nodup_resolve (r : Registry) (q : Query) : ((r.resolve q).map Adapter.id).Nodup :=
  nodup_firsts [] _

/-! ### What becomes a registry -/

theorem repeatedId?_eq_none (hn : (l.map Adapter.id).Nodup) (hs : ∀ a ∈ l, a.id ∉ seen) :
    repeatedId? seen l = none := by
  induction l generalizing seen with
  | nil => rfl
  | cons a rest ih =>
    rw [List.map_cons, List.nodup_cons] at hn
    rw [repeatedId?, if_neg (hs a List.mem_cons_self)]
    refine ih hn.2 fun b hb => ?_
    have hne : b.id ≠ a.id := fun h => hn.1 (h ▸ List.mem_map_of_mem hb)
    simpa [hne] using hs b (List.mem_cons_of_mem a hb)

/-- Adapters of different ids are a registry. -/
theorem ofAdapters_of_nodup (hn : (l.map Adapter.id).Nodup) : ofAdapters l = .ok ⟨l, hn⟩ := by
  have hnone : repeatedId? [] l = none := repeatedId?_eq_none hn fun _ _ => List.not_mem_nil
  rw [ofAdapters]
  split
  · rfl
  · rename_i id hid
    rw [hnone] at hid
    exact absurd hid (Option.some_ne_none id).symm

/-- A registry has the adapters that it was made of. -/
theorem adapters_of_ofAdapters (h : ofAdapters l = .ok r) : r.adapters = l := by
  rw [ofAdapters] at h
  split at h
  · cases h
    rfl
  · cases h

/-! ### Members of a registry -/

/-- An adapter of a registry is known by its id. -/
theorem eq_of_id_eq (ha : a ∈ r.adapters) (hb : b ∈ r.adapters) (h : a.id = b.id) : a = b :=
  List.inj_on_of_nodup_map r.distinct ha hb h

theorem find?_id (ha : a ∈ r.adapters) : (r.adapters.find? fun b => b.id == a.id) = some a := by
  cases h : r.adapters.find? fun b => b.id == a.id with
  | none => simpa using List.find?_eq_none.mp h a ha
  | some b =>
    have hid : b.id = a.id := by simpa using List.find?_some h
    rw [eq_of_id_eq (List.mem_of_find?_eq_some h) ha hid]

theorem get?_id (ha : a ∈ r.adapters) : r.get? a.id = some a :=
  (get?_eq_find? r a.id).trans (find?_id ha)

theorem mem_adapters_of_mem_candidates (h : a ∈ r.candidates q) : a ∈ r.adapters := by
  rw [candidates] at h
  split at h
  · obtain ⟨c, -, hc⟩ := List.mem_flatMap.mp h
    rw [ofCategory_eq_filter] at hc
    exact List.mem_of_mem_filter hc
  · obtain ⟨id, -, hid⟩ := List.mem_filterMap.mp h
    exact mem_adapters_of_get? hid

/-- Every enabled candidate is reached: what another one of its id would stand for is itself. -/
theorem mem_resolve : a ∈ r.resolve q ↔ a ∈ r.candidates q ∧ a.source.enabled := by
  constructor
  · intro h
    exact List.mem_filter.mp ((firsts_sublist _ _).subset h)
  · intro h
    have hmem : a ∈ (r.candidates q).filter fun a => a.source.enabled := List.mem_filter.mpr h
    obtain ⟨b, hb, hid⟩ := exists_mem_firsts hmem (List.not_mem_nil (a := a.id))
    have hb' := List.mem_of_mem_filter ((firsts_sublist _ _).subset hb)
    have hab : b = a := eq_of_id_eq (mem_adapters_of_mem_candidates hb')
      (mem_adapters_of_mem_candidates h.1) hid
    exact hab ▸ hb

theorem mem_adapters_of_mem_resolve (h : a ∈ r.resolve q) : a ∈ r.adapters :=
  mem_adapters_of_mem_candidates (mem_resolve.mp h).1

/-! ### Resolution sees sources only

Two lists of adapters are alike when their sources are the same, place by place. Every step of
resolution keeps lists alike, so the sources that a query reaches do not depend on what adapters
do. -/

/-- Two adapters of the same source. -/
def SameSource (a b : Adapter) : Prop :=
  a.source = b.source

theorem SameSource.id_eq (h : SameSource a b) : a.id = b.id :=
  congrArg Source.id h

theorem forall₂_sameSource {l l' : List Adapter} :
    List.Forall₂ SameSource l l' ↔ l.map Adapter.source = l'.map Adapter.source := by
  rw [← List.forall₂_eq_eq_eq, List.forall₂_map_left_iff, List.forall₂_map_right_iff]
  rfl

theorem forall₂_firsts {l l' : List Adapter} (h : List.Forall₂ SameSource l l')
    (seen : List String) : List.Forall₂ SameSource (firsts seen l) (firsts seen l') := by
  induction h generalizing seen with
  | nil => exact .nil
  | cons hab _ ih =>
    rw [firsts, firsts, hab.id_eq]
    split
    · exact ih seen
    · exact .cons hab (ih _)

theorem forall₂_ofCategory (h : List.Forall₂ SameSource r.adapters r'.adapters) (c : Category) :
    List.Forall₂ SameSource (r.ofCategory c) (r'.ofCategory c) := by
  rw [ofCategory_eq_filter, ofCategory_eq_filter]
  refine List.rel_filter ?_ h
  intro a b hab
  change a.isListedUnder c = true ↔ b.isListedUnder c = true
  rw [Adapter.isListedUnder, Adapter.isListedUnder, hab]

theorem rel_get? (h : List.Forall₂ SameSource r.adapters r'.adapters) (id : String) :
    Option.Rel SameSource (r.get? id) (r'.get? id) := by
  rw [get?_eq_find?, get?_eq_find?]
  generalize r.adapters = l, r'.adapters = l' at h
  induction h with
  | nil => exact .none
  | cons hab _ ih =>
    rw [List.find?_cons, List.find?_cons, hab.id_eq]
    split
    · exact .some hab
    · exact ih

theorem forall₂_candidates (h : List.Forall₂ SameSource r.adapters r'.adapters) (q : Query) :
    List.Forall₂ SameSource (r.candidates q) (r'.candidates q) := by
  rw [candidates, candidates]
  split
  · refine List.rel_flatMap (List.forall₂_same.mpr fun c _ => Eq.refl c) ?_
    rintro c _ rfl
    exact forall₂_ofCategory h c
  · refine List.rel_filterMap ?_ (List.forall₂_same.mpr fun id _ => Eq.refl id)
    rintro id _ rfl
    exact rel_get? h id

/-- **What a query reaches is told by sources alone.** -/
theorem map_source_resolve (h : r.adapters.map Adapter.source = r'.adapters.map Adapter.source)
    (q : Query) : (r.resolve q).map Adapter.source = (r'.resolve q).map Adapter.source := by
  rw [← forall₂_sameSource] at h ⊢
  refine forall₂_firsts (List.rel_filter ?_ (forall₂_candidates h q)) []
  intro a b hab
  change a.source.enabled = true ↔ b.source.enabled = true
  rw [hab]

theorem map_id_resolve (h : r.adapters.map Adapter.source = r'.adapters.map Adapter.source)
    (q : Query) : (r.resolve q).map Adapter.id = (r'.resolve q).map Adapter.id := by
  have := congrArg (List.map Source.id) (map_source_resolve h q)
  rwa [List.map_map, List.map_map] at this

end Metasearch.Registry

namespace Metasearch.Service

/-! ### What a call reaches -/

variable {s : Service} {a : Adapter} {call : Call}

theorem reached_of_fault {fault : QueryFault} (h : call.fault? = some fault) :
    s.reached call = [] := by
  rw [reached, h]

theorem reached_of_sound (h : call.fault? = none) :
    s.reached call = s.registry.resolve call.query := by
  rw [reached, h]

theorem nodup_reached (s : Service) (call : Call) : ((s.reached call).map Adapter.id).Nodup := by
  cases h : call.fault? with
  | some fault =>
    rw [reached_of_fault h]
    exact List.nodup_nil
  | none =>
    rw [reached_of_sound h]
    exact Registry.nodup_resolve _ _

theorem mem_adapters_of_mem_reached (h : a ∈ s.reached call) : a ∈ s.registry.adapters := by
  cases hfault : call.fault? with
  | some fault =>
    rw [reached_of_fault hfault] at h
    exact absurd h List.not_mem_nil
  | none =>
    rw [reached_of_sound hfault] at h
    exact Registry.mem_adapters_of_mem_resolve h

end Metasearch.Service
