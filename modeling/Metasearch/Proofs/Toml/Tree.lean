import Metasearch.Toml.Tree

/-!
# Tables within a document

A document is changed at the end of a path of names. What stands around a table that has a header
stays as it is while the table grows, so it is given as a function of the entries of this table. Each
kind of line then adds one entry at the end of the table that it is in.

## Main definitions

* `IsContext`: a function that puts entries in the place of a table at the end of a path.
* `withSeries`: entries with a sequence of tables that may still be empty.

## Main results

* `IsContext.branch`, `IsContext.series`: from a table to those in it.
* `IsContext.putUnder?`, `IsContext.openTable?`, `IsContext.openItem?`: what lines add.
-/

namespace Metasearch.Toml

variable {name : String} {path : List String} {entries inner : Entries} {node : Node}
  {fill : Entries → Entries} {change : Origin → Entries → Option Entries} {d : Data}
  {tables : List Entries}

/-! ### Entries -/

theorem find?_eq_none (h : name ∉ entries.map (·.1)) : find? name entries = none := by
  rw [find?, Option.map_eq_none_iff, List.find?_eq_none]
  intro e he heq
  exact h (List.mem_map.mpr ⟨e, he, by simpa using heq⟩)

theorem find?_append_self (h : name ∉ entries.map (·.1)) (node : Node) :
    find? name (entries ++ [(name, node)]) = some node := by
  have hnone : (entries.find? fun e => e.1 == name) = none := by
    simpa [find?] using find?_eq_none h
  simp [find?, List.find?_append, hnone]

theorem replace_append_self (h : name ∉ entries.map (·.1)) (node node' : Node) :
    replace name node' (entries ++ [(name, node)]) = entries ++ [(name, node')] := by
  have hself : (entries.map fun e => if e.1 == name then (name, node') else e) = entries.map id := by
    refine List.map_congr_left fun e he => ?_
    have hne : e.1 ≠ name := fun heq => h (List.mem_map.mpr ⟨e, he, heq⟩)
    simp [hne]
  rw [replace, List.map_append, hself, List.map_id]
  simp

theorem onLast?_append (change : Entries → Option Entries) (tables : List Entries)
    (inner : Entries) : onLast? change (tables ++ [inner]) =
      (change inner).map fun inner' => tables ++ [inner'] := by
  induction tables with
  | nil => rfl
  | cons t rest ih =>
    have hcons : onLast? change (t :: (rest ++ [inner])) =
        (onLast? change (rest ++ [inner])).map (t :: ·) := by
      rw [onLast?]
      exact List.append_ne_nil_of_right_ne_nil _ (List.cons_ne_nil _ _)
    rw [List.cons_append, hcons, ih, Option.map_map]
    rfl

/-! ### Paths -/

/-- To the end of a path is to the end of its first part, and on from there. -/
theorem within?_append (dotted : Bool) (change : Origin → Entries → Option Entries)
    (path path' : List String) (origin : Origin) (entries : Entries) :
    within? dotted change (path ++ path') origin entries =
      within? dotted (within? dotted change path') path origin entries := by
  induction path generalizing origin entries with
  | nil => rfl
  | cons name path ih =>
    have hih : within? dotted change (path ++ path') =
        within? dotted (within? dotted change path') path := by
      funext origin entries
      exact ih origin entries
    rw [List.cons_append, within?, within?, hih]

/-- Holds of a function that puts entries in the place of a table at the end of a path. -/
def IsContext (path : List String) (fill : Entries → Entries) : Prop :=
  ∀ (change : Origin → Entries → Option Entries) (entries : Entries),
    within? false change path Origin.header (fill entries) =
      (change Origin.header entries).map fill

theorem isContext_id : IsContext [] id := fun change entries => by
  rw [within?, id, Option.map_id, id]

/-- Entries with a sequence of tables behind them, if there is a table in it. -/
def withSeries (name : String) (tables : List Entries) (entries : Entries) : Entries :=
  if tables.isEmpty then entries else entries ++ [(name, .series tables)]

namespace IsContext

/-- From a table to one in it. -/
theorem branch (h : IsContext path fill) (hname : name ∉ entries.map (·.1)) :
    IsContext (path ++ [name]) fun inner =>
      fill (entries ++ [(name, .branch Origin.header inner)]) := by
  intro change inner
  rw [within?_append, h, within?, find?_append_self hname]
  simp only [Bool.false_and, if_false, within?, Bool.false_eq_true]
  cases change Origin.header inner with
  | none => rfl
  | some inner' => simp [replace_append_self hname]

/-- From a table to the last one of a sequence in it. -/
theorem series (h : IsContext path fill) (hname : name ∉ entries.map (·.1))
    (tables : List Entries) : IsContext (path ++ [name]) fun inner =>
      fill (entries ++ [(name, .series (tables ++ [inner]))]) := by
  intro change inner
  rw [within?_append, h, within?, find?_append_self hname]
  simp only [onLast?_append, within?]
  cases change Origin.header inner with
  | none => rfl
  | some inner' => simp [replace_append_self hname]

/-! ### What lines add -/

/-- A name with a value adds the value. -/
theorem putUnder? (h : IsContext path fill) (hname : name ∉ entries.map (·.1)) (d : Data) :
    putUnder? path [] name d (fill entries) = some (fill (entries ++ [(name, .leaf d)])) := by
  rw [Toml.putUnder?, h]
  simp [put?, within?, add?, find?_eq_none hname, Origin.header]

/-- A header adds an empty table. -/
theorem openTable? (h : IsContext path fill) (hname : name ∉ entries.map (·.1)) :
    openTable? path name (fill entries) =
      some (fill (entries ++ [(name, .branch Origin.header [])])) := by
  rw [Toml.openTable?, h, find?_eq_none hname]
  rfl

/-- A header of a sequence of tables adds an empty table to it. -/
theorem openItem? (h : IsContext path fill) (hname : name ∉ entries.map (·.1))
    (tables : List Entries) : openItem? path name (fill (withSeries name tables entries)) =
      some (fill (entries ++ [(name, .series (tables ++ [[]]))])) := by
  rw [Toml.openItem?, h]
  cases tables with
  | nil => simp [withSeries, find?_eq_none hname]
  | cons t rest => simp [withSeries, find?_append_self hname, replace_append_self hname]

end IsContext
end Metasearch.Toml
