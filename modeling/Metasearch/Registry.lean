import Metasearch.Adapter

/-!
# Registry

The adapters of an engine in the order in which they were registered, no two of one id. An index
tells where those of a category are, and the one of an id. A query is resolved to the enabled ones
that it reaches: those that it names, or else those of its categories.

## Main definitions

* `Index`: places by category and by id.
* `Registry`, `Registry.ofAdapters`.
* `Registry.ofCategory`, `Registry.get?`: look-up.
* `Registry.resolve`: the adapters that a query reaches.
-/

namespace Metasearch

/-- Where adapters are in the order of their registration: the places of each category, and the one
of each id. -/
structure Index where
  /-- The places of the adapters of a category. -/
  places : Category → List Nat
  /-- The place of the adapter of an id. -/
  place? : String → Option Nat

namespace Index

/-- The index of no adapters. -/
def empty : Index := ⟨fun _ => [], fun _ => none⟩

/-- The index with a place put under an id. -/
def name (x : Index) (n : Nat) (id : String) : Index :=
  { x with place? := fun i => if i = id then some n else x.place? i }

/-- The index with a place put under a category, if it is not there yet. Nothing is put under the
unknown one. -/
def list (n : Nat) (x : Index) (c : Category) : Index :=
  if c = .unknown ∨ n ∈ x.places c then x
  else { x with places := fun d => if d = c then x.places c ++ [n] else x.places d }

/-- The index with an adapter at a place. -/
def enter (x : Index) (n : Nat) (a : Adapter) : Index :=
  a.source.categories.foldl (list n) (x.name n a.id)

/-- The index with adapters at a place and those after it. -/
def fill (x : Index) (n : Nat) : List Adapter → Index
  | [] => x
  | a :: rest => fill (x.enter n a) (n + 1) rest

end Index

/-- Adapters in the order of their registration. -/
structure Registry where
  /-- The adapters. -/
  adapters : List Adapter
  /-- No two have the same id. -/
  distinct : (adapters.map Adapter.id).Nodup

namespace Registry

/-- The first id that an earlier adapter has, the ids in `seen` being taken. -/
def repeatedId? (seen : List String) : List Adapter → Option String
  | [] => none
  | a :: rest => if a.id ∈ seen then some a.id else repeatedId? (a.id :: seen) rest

/-- Without a repeated id, all ids are different, and none is among those seen before. -/
theorem nodup_of_repeatedId? {seen : List String} {adapters : List Adapter}
    (h : repeatedId? seen adapters = none) :
    (adapters.map Adapter.id).Nodup ∧ ∀ a ∈ adapters, a.id ∉ seen := by
  induction adapters generalizing seen with
  | nil => simp
  | cons a rest ih =>
    rw [repeatedId?] at h
    split at h
    · exact absurd h (by simp)
    · rename_i fresh
      obtain ⟨hn, hs⟩ := ih h
      refine ⟨?_, ?_⟩
      · rw [List.map_cons, List.nodup_cons]
        refine ⟨?_, hn⟩
        intro hm
        obtain ⟨b, hb, hid⟩ := List.mem_map.1 hm
        exact hs b hb (hid ▸ List.mem_cons_self)
      · intro b hb
        rcases List.mem_cons.1 hb with rfl | hb
        · exact fresh
        · exact fun hm => hs b hb (List.mem_cons_of_mem _ hm)

/-- A registry of adapters; refused when two have the same id. -/
def ofAdapters (adapters : List Adapter) : Except Failure Registry :=
  match h : repeatedId? [] adapters with
  | none => .ok ⟨adapters, (nodup_of_repeatedId? h).1⟩
  | some id => .error (.config (.duplicateId id))

/-- The ids in the order of registration. -/
def ids (r : Registry) : List String :=
  r.adapters.map Adapter.id

/-- Where the adapters are. -/
def index (r : Registry) : Index :=
  Index.empty.fill 0 r.adapters

/-- The adapters of a category; an unknown category has none. -/
def ofCategory (r : Registry) (c : Category) : List Adapter :=
  (r.index.places c).filterMap fun n => r.adapters[n]?

/-- The adapter of an id. -/
def get? (r : Registry) (id : String) : Option Adapter :=
  (r.index.place? id).bind fun n => r.adapters[n]?

/-- The adapters that a query names, or else those of its categories, with repetitions. -/
def candidates (r : Registry) (q : Query) : List Adapter :=
  if q.sources.isEmpty then q.effectiveCategories.flatMap r.ofCategory
  else q.sources.filterMap r.get?

/-- Each adapter at its first place only, the ids in `seen` left out. -/
def firsts (seen : List String) : List Adapter → List Adapter
  | [] => []
  | a :: rest => if a.id ∈ seen then firsts seen rest else a :: firsts (a.id :: seen) rest

/-- The enabled adapters that a query reaches, each one once. -/
def resolve (r : Registry) (q : Query) : List Adapter :=
  firsts [] ((r.candidates q).filter fun a => a.source.enabled)

end Registry
end Metasearch
