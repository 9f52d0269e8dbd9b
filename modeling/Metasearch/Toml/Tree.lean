import Metasearch.Data.Basic

/-!
# Tables under construction

A TOML document builds a table piece by piece, and says about each table once what is in it: a
table is opened by a header or by dotted names, not by both, and a closed value is never opened
again. A table that a header merely passes through is implicit and may still get a header of its
own.

## Main definitions

* `Node`: a value, a table, or a sequence of tables.
* `within?`: a change to the table at the end of a path.
* `put?`: a named value put into a table.
* `openTable?`, `openItem?`: the two kinds of headers.
* `toData`: the finished table.
-/

namespace Metasearch.Toml

/-- How a table came about. -/
structure Origin where
  /-- No header of its own opened it. -/
  isImplicit : Bool
  /-- Dotted names opened it. -/
  isDotted : Bool
deriving DecidableEq

namespace Origin

/-- A table with a header of its own. -/
def header : Origin := ⟨false, false⟩

/-- A table on a path. -/
def passing (dotted : Bool) : Origin := ⟨true, dotted⟩

end Origin

/-- What a name stands for while the document is read. -/
inductive Node where
  /-- A closed value. -/
  | leaf (d : Data)
  /-- A table. -/
  | branch (origin : Origin) (entries : List (String × Node))
  /-- A sequence of tables, the last of which is open. -/
  | series (tables : List (List (String × Node)))

/-- The entries of a table. -/
abbrev Entries : Type := List (String × Node)

/-- What a name stands for. -/
def find? (name : String) (entries : Entries) : Option Node :=
  (entries.find? fun e => e.1 == name).map (·.2)

/-- The entries with another node under a name. -/
def replace (name : String) (node : Node) (entries : Entries) : Entries :=
  entries.map fun e => if e.1 == name then (name, node) else e

/-- A change to the last one of a sequence of tables. -/
def onLast? (change : Entries → Option Entries) : List Entries → Option (List Entries)
  | [] => none
  | [t] => (change t).map ([·])
  | t :: rest => (onLast? change rest).map (t :: ·)

/-- A change to the table at the end of a path; tables that are missing on the way are made.
Dotted names do not pass through a table that has a header. -/
def within? (dotted : Bool) (change : Origin → Entries → Option Entries) :
    List String → Origin → Entries → Option Entries
  | [], origin, entries => change origin entries
  | name :: path, _, entries =>
    match find? name entries with
    | none => do
      let made := Origin.passing dotted
      return entries ++ [(name, .branch made (← within? dotted change path made []))]
    | some (.leaf _) => none
    | some (.branch origin inner) =>
      if dotted && !origin.isImplicit then none
      else do
        return replace name (.branch origin (← within? dotted change path origin inner)) entries
    | some (.series tables) => do
      let last := within? dotted change path Origin.header
      return replace name (.series (← onLast? last tables)) entries

/-- A table with a value under a new name. -/
def add? (name : String) (d : Data) (entries : Entries) : Option Entries :=
  if (find? name entries).isSome then none else some (entries ++ [(name, .leaf d)])

/-- A table with a value under a path of dotted names. A plain name goes into a table that is
not dotted, a dotted one into a table that is. -/
def put? (path : List String) (name : String) (d : Data) (origin : Origin) (entries : Entries) :
    Option Entries :=
  within? true
    (fun o inner => if o.isDotted == path.isEmpty then none else add? name d inner)
    path origin entries

/-- A document with a table opened by a header. -/
def openTable? (path : List String) (name : String) (entries : Entries) : Option Entries :=
  within? false
    (fun _ inner =>
      match find? name inner with
      | none => some (inner ++ [(name, .branch Origin.header [])])
      | some (.branch origin old) =>
        if origin.isImplicit && !origin.isDotted then
          some ((inner.filter fun e => e.1 != name) ++ [(name, .branch Origin.header old)])
        else none
      | some _ => none)
    path Origin.header entries

/-- A document with one more table in a sequence, opened by a header. -/
def openItem? (path : List String) (name : String) (entries : Entries) : Option Entries :=
  within? false
    (fun _ inner =>
      match find? name inner with
      | none => some (inner ++ [(name, .series [[]])])
      | some (.series tables) => some (replace name (.series (tables ++ [[]])) inner)
      | some _ => none)
    path Origin.header entries

/-- A document with a value in the table that the last header opened. -/
def putUnder? (current path : List String) (name : String) (d : Data) (entries : Entries) :
    Option Entries :=
  within? false (put? path name d) current Origin.header entries

mutual

/-- What a finished node denotes. -/
def Node.toData : Node → Data
  | .leaf d => d
  | .branch _ entries => .table (entriesData entries)
  | .series tables => .list (tablesData tables)

/-- The fields of finished entries. -/
def entriesData : List (String × Node) → List (String × Data)
  | [] => []
  | (name, node) :: rest => (name, node.toData) :: entriesData rest

/-- The items of a finished sequence of tables. -/
def tablesData : List (List (String × Node)) → List Data
  | [] => []
  | entries :: rest => .table (entriesData entries) :: tablesData rest

end

end Metasearch.Toml
