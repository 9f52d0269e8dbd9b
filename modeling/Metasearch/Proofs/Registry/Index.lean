import Mathlib.Data.List.Basic
import Metasearch.Registry

/-!
# The index of a registry

Adapters are found by places, which are put into an index one adapter after the other. An adapter
that names a category several times is there once, and one that names the unknown category is not
there for it. So at the end, what is found under a category is what a pass over all adapters finds,
in the same order; and likewise for an id, as no two adapters have the same one.

## Main definitions

* `Adapter.isListedUnder`: the categories of an adapter.
* `Index.IsIndexOf`: what an index has to tell about adapters.

## Main results

* `Index.IsIndexOf.enter`, `Index.IsIndexOf.fill`: an index is kept up when adapters come in.
* `Registry.ofCategory_eq_filter`, `Registry.get?_eq_find?`: what is found in a registry.
-/

namespace Metasearch

/-- Holds of a category that an adapter is listed under; nothing is listed under the unknown one. -/
def Adapter.isListedUnder (a : Adapter) (c : Category) : Bool :=
  c ≠ .unknown && a.source.categories.contains c

namespace Index

variable {x : Index} {n : Nat} {a : Adapter} {front l : List Adapter} {c : Category}

/-! ### One adapter -/

theorem places_list_of_mem (h : n ∈ x.places c) (d : Category) :
    (x.list n d).places c = x.places c := by
  rw [list]
  split
  · rfl
  · rename_i hd
    have hne : c ≠ d := fun heq => hd (.inr (heq ▸ h))
    exact if_neg hne

theorem places_list_of_notMem (h : n ∉ x.places c) (d : Category) :
    (x.list n d).places c =
      if c ≠ .unknown ∧ c = d then x.places c ++ [n] else x.places c := by
  rw [list]
  by_cases hcd : c = d
  · subst hcd
    by_cases hc : c = .unknown <;> simp [hc, h]
  · rw [if_neg (fun h => hcd h.2 : ¬(c ≠ .unknown ∧ c = d))]
    split
    · rfl
    · exact if_neg hcd

theorem places_foldl_list_of_mem (h : n ∈ x.places c) (categories : List Category) :
    (categories.foldl (list n) x).places c = x.places c := by
  induction categories generalizing x with
  | nil => rfl
  | cons d rest ih =>
    have hstep := places_list_of_mem h d
    rw [List.foldl_cons, ih (hstep ▸ h), hstep]

theorem places_foldl_list (h : n ∉ x.places c) (categories : List Category) :
    (categories.foldl (list n) x).places c =
      if c ≠ .unknown ∧ c ∈ categories then x.places c ++ [n] else x.places c := by
  induction categories generalizing x with
  | nil => simp
  | cons d rest ih =>
    have hstep := places_list_of_notMem h d
    rw [List.foldl_cons]
    by_cases hd : c ≠ .unknown ∧ c = d
    · rw [if_pos hd] at hstep
      have hmem : n ∈ (x.list n d).places c := hstep ▸ by simp
      rw [places_foldl_list_of_mem hmem, hstep, if_pos ⟨hd.1, hd.2 ▸ List.mem_cons_self⟩]
    · rw [if_neg hd] at hstep
      rw [ih (hstep ▸ h), hstep]
      grind

theorem place?_foldl_list (x : Index) (n : Nat) (categories : List Category) :
    (categories.foldl (list n) x).place? = x.place? := by
  induction categories generalizing x with
  | nil => rfl
  | cons d rest ih =>
    rw [List.foldl_cons, ih, list]
    split <;> rfl

/-- An adapter is put under its categories, once each. -/
theorem places_enter (h : n ∉ x.places c) (a : Adapter) :
    (x.enter n a).places c =
      if a.isListedUnder c then x.places c ++ [n] else x.places c := by
  have hname : n ∉ (x.name n a.id).places c := h
  rw [enter, places_foldl_list hname]
  simp [Adapter.isListedUnder, name]

theorem place?_enter (x : Index) (n : Nat) (a : Adapter) (id : String) :
    (x.enter n a).place? id = if id = a.id then some n else x.place? id := by
  rw [enter, place?_foldl_list, name]

/-! ### All adapters -/

/-- What an index has to tell about adapters. -/
structure IsIndexOf (x : Index) (l : List Adapter) : Prop where
  /-- No place is past the end. -/
  places_lt : ∀ c, ∀ n ∈ x.places c, n < l.length
  /-- The places of a category are those of the adapters under it, in order. -/
  places_eq : ∀ c, ((x.places c).filterMap fun n => l[n]?) = l.filter fun a => a.isListedUnder c
  /-- No place is past the end. -/
  place?_lt : ∀ id, ∀ n ∈ x.place? id, n < l.length
  /-- The place of an id is that of its adapter. -/
  place?_eq : ∀ id, ((x.place? id).bind fun n => l[n]?) = l.find? fun a => a.id == id

theorem isIndexOf_empty : empty.IsIndexOf [] where
  places_lt _ _ h := absurd h List.not_mem_nil
  places_eq _ := rfl
  place?_lt _ _ h := absurd h (Option.not_mem_none _)
  place?_eq _ := rfl

theorem IsIndexOf.places_enter (h : x.IsIndexOf front) (a : Adapter) (c : Category) :
    (x.enter front.length a).places c =
      if a.isListedUnder c then x.places c ++ [front.length] else x.places c :=
  Index.places_enter (fun hn => Nat.lt_irrefl _ (h.places_lt c _ hn)) a

/-- Places that were given before lead to the same adapters. -/
theorem IsIndexOf.filterMap_places (h : x.IsIndexOf front) (a : Adapter) (c : Category) :
    ((x.places c).filterMap fun n => (front ++ [a])[n]?) =
      front.filter fun a => a.isListedUnder c := by
  rw [← h.places_eq]
  exact List.filterMap_congr fun n hn => List.getElem?_append_left (h.places_lt c n hn)

/-- **An index is kept up when an adapter comes in whose id is new.** -/
theorem IsIndexOf.enter (h : x.IsIndexOf front) (ha : a.id ∉ front.map Adapter.id) :
    (x.enter front.length a).IsIndexOf (front ++ [a]) where
  places_lt c n hn := by
    rw [h.places_enter] at hn
    rw [List.length_append, List.length_singleton]
    split at hn
    · rcases List.mem_append.mp hn with hn | hn
      · exact Nat.lt_succ_of_lt (h.places_lt c n hn)
      · rw [List.mem_singleton.mp hn]
        exact Nat.lt_succ_self _
    · exact Nat.lt_succ_of_lt (h.places_lt c n hn)
  places_eq c := by
    rw [h.places_enter, List.filter_append, ← h.filterMap_places a]
    split <;> rename_i hc <;> simp [List.filterMap_append, hc]
  place?_lt id n hn := by
    rw [place?_enter] at hn
    rw [List.length_append, List.length_singleton]
    split at hn
    · rw [← Option.mem_some_iff.mp hn]
      exact Nat.lt_succ_self _
    · exact Nat.lt_succ_of_lt (h.place?_lt id n hn)
  place?_eq id := by
    rw [place?_enter, List.find?_append]
    split
    · rename_i hid
      have hnone : (front.find? fun b => b.id == id) = none := by
        rw [List.find?_eq_none]
        intro b hb heq
        exact ha (List.mem_map.mpr ⟨b, hb, (eq_of_beq heq).trans hid⟩)
      rw [hnone]
      simp [hid]
    · rename_i hid
      have hlast : ([a].find? fun b => b.id == id) = none := by simpa using Ne.symm hid
      rw [hlast, Option.or_none, ← h.place?_eq]
      refine Option.bind_congr fun n hn => ?_
      exact List.getElem?_append_left (h.place?_lt id n hn)

/-- An index is kept up when adapters come in, one after the other. -/
theorem IsIndexOf.fill (h : x.IsIndexOf front) (hn : ((front ++ l).map Adapter.id).Nodup) :
    (x.fill front.length l).IsIndexOf (front ++ l) := by
  induction l generalizing x front with
  | nil => simpa [Index.fill] using h
  | cons a rest ih =>
    have ha : a.id ∉ front.map Adapter.id := by
      rw [List.map_append, List.nodup_append] at hn
      intro hmem
      exact hn.2.2 _ hmem _ (List.mem_map_of_mem List.mem_cons_self) rfl
    have happend : front ++ a :: rest = (front ++ [a]) ++ rest := by simp
    have hlength : front.length + 1 = (front ++ [a]).length := by simp
    rw [happend] at hn ⊢
    rw [Index.fill, hlength]
    exact ih (h.enter ha) hn

end Index

namespace Registry

variable {r : Registry} {a : Adapter} {id : String}

theorem isIndexOf_index (r : Registry) : r.index.IsIndexOf r.adapters :=
  Index.isIndexOf_empty.fill r.distinct

/-- **Under a category there are the adapters that list it, in the order of registration.** -/
theorem ofCategory_eq_filter (r : Registry) (c : Category) :
    r.ofCategory c = r.adapters.filter fun a => a.isListedUnder c :=
  r.isIndexOf_index.places_eq c

theorem get?_eq_find? (r : Registry) (id : String) :
    r.get? id = r.adapters.find? fun a => a.id == id :=
  r.isIndexOf_index.place?_eq id

theorem id_of_get? (h : r.get? id = some a) : a.id = id := by
  rw [get?_eq_find?] at h
  simpa using List.find?_some h

theorem mem_adapters_of_get? (h : r.get? id = some a) : a ∈ r.adapters := by
  rw [get?_eq_find?] at h
  exact List.mem_of_find?_eq_some h

end Registry
end Metasearch
