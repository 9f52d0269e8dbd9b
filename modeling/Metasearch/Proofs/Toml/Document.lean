import Mathlib.Data.List.Perm.Basic
import Metasearch.Proofs.Data.Decode
import Metasearch.Proofs.Toml.Line
import Metasearch.Proofs.Toml.Tree

/-!
# Documents of TOML, written and read

A table is written with its values first, since a name with a value behind a header would belong to
the table of that header. So that is the order in which its fields are read back, without those that
hold nothing. The table of a header grows while its section is read and what is around it stays, so
all is proved in any context, by induction on the fields that are written.

## Main definitions

* `nodeOf`, `nodesOf`: what data is read as.
* `IsField`: data that can be written as a field.
* `readBack`, `givenBack?`: what a document gives back of data, and of the data of a field.

## Main results

* `exists_body`: what stands under a header.
* `exists_print?`: a document is written, and is read back.
* `keeps_givenBack`: structures are read from what is given back.
-/

namespace Metasearch.Toml

open Metasearch.Text

variable {name : String} {path : List String} {fields : List (String × Data)} {room : Nat}
  {d : Data} {entries : Entries} {fill : Entries → Entries} {current : List String}

/-! ### What data is read as -/

/-- Holds of closed values. -/
def isLeaf : Node → Bool
  | .leaf _ => true
  | _ => false

/-- The entries of a table with its closed values first. -/
def valuesFirst (entries : Entries) : Entries :=
  (entries.filter fun e => isLeaf e.2) ++ entries.filter fun e => !isLeaf e.2

mutual

/-- What data is read as. -/
def nodeOf : Data → Node
  | .table fields => .branch Origin.header (valuesFirst (nodesOf fields))
  | .list items =>
    if hasHeader (.list items) then .series (seriesOf items) else .leaf (.list items)
  | d => .leaf d

/-- What fields are read as; those that hold nothing are left out. -/
def nodesOf : List (String × Data) → Entries
  | [] => []
  | (name, d) :: rest =>
    if isPresent d then (name, nodeOf d) :: nodesOf rest else nodesOf rest

/-- What a sequence of tables is read as. -/
def seriesOf : List Data → List Entries
  | [] => []
  | .table fields :: rest => valuesFirst (nodesOf fields) :: seriesOf rest
  | _ :: rest => seriesOf rest

end

theorem isLeaf_nodeOf (d : Data) : isLeaf (nodeOf d) = !hasHeader d := by
  cases d with
  | list items =>
    rw [nodeOf]
    split_ifs with h <;> simp [isLeaf, h]
  | _ => rfl

theorem valuesFirst_perm (entries : Entries) : (valuesFirst entries).Perm entries :=
  List.filter_append_perm _ entries

theorem sublist_nodesOf (fields : List (String × Data)) :
    ((nodesOf fields).map (·.1)).Sublist (fields.map (·.1)) := by
  induction fields with
  | nil => exact List.Sublist.refl _
  | cons f rest ih =>
    obtain ⟨name, d⟩ := f
    rw [nodesOf]
    split_ifs
    · exact ih.cons_cons name
    · exact ih.cons name

/-- No name stands twice among entries if none does among the fields. -/
theorem nodup_valuesFirst (h : (fields.map (·.1)).Nodup) :
    ((valuesFirst (nodesOf fields)).map (·.1)).Nodup :=
  ((valuesFirst_perm _).map _).nodup_iff.mpr (h.sublist (sublist_nodesOf fields))

theorem not_mem_of_nodup {node : Node} {rest : Entries}
    (h : ((entries ++ (name, node) :: rest).map (·.1)).Nodup) : name ∉ entries.map (·.1) := by
  rw [List.map_append, List.map_cons] at h
  exact fun hname => List.disjoint_of_nodup_append h hname List.mem_cons_self

/-- The entries of the values among fields. -/
def leavesOf (fields : List (String × Data)) : Entries :=
  (nodesOf fields).filter fun e => isLeaf e.2

/-- The entries of the tables and sequences of tables among fields. -/
def headersOf (fields : List (String × Data)) : Entries :=
  (nodesOf fields).filter fun e => !isLeaf e.2

theorem nodeOf_eq_leaf (h : hasHeader d = false) : nodeOf d = .leaf d := by
  cases d with
  | list items => rw [nodeOf, h, if_neg Bool.false_ne_true]
  | table fields => cases h
  | _ => rfl

theorem isPresent_of_hasHeader (h : hasHeader d = true) : isPresent d = true := by
  cases d <;> first | rfl | cases h

theorem leavesOf_cons (name : String) (d : Data) (rest : List (String × Data)) :
    leavesOf ((name, d) :: rest) =
      if isPresent d && !hasHeader d then (name, .leaf d) :: leavesOf rest else leavesOf rest := by
  rw [leavesOf, nodesOf]
  cases hpresent : isPresent d with
  | false => rfl
  | true =>
    cases hheader : hasHeader d with
    | false => simp [nodeOf_eq_leaf hheader, leavesOf, isLeaf]
    | true => simp [isLeaf_nodeOf, hheader, leavesOf]

theorem headersOf_cons (name : String) (d : Data) (rest : List (String × Data)) :
    headersOf ((name, d) :: rest) =
      if hasHeader d then (name, nodeOf d) :: headersOf rest else headersOf rest := by
  rw [headersOf, nodesOf]
  cases hheader : hasHeader d with
  | true => simp [isPresent_of_hasHeader hheader, isLeaf_nodeOf, hheader, headersOf]
  | false =>
    cases isPresent d with
    | false => rfl
    | true => simp [isLeaf_nodeOf, hheader, headersOf]

/-! ### Fields that can be written -/

/-- Data that can be written as a field where there is room for some levels of nesting. A table
within it has a header of its own. -/
inductive IsField : Nat → Data → Prop
  /-- Nothing. -/
  | null {room : Nat} : IsField room .null
  /-- A value on the right of a name. -/
  | value {room : Nat} {d : Data} (h : IsValue d) : IsField room d
  /-- A table. -/
  | table {room : Nat} {fields : List (String × Data)} (hnames : (fields.map (·.1)).Nodup)
    (hheader : showsHeader fields = true) (h : ∀ f ∈ fields, IsField room f.2) :
    IsField (room + 1) (.table fields)
  /-- A sequence of tables. -/
  | tables {room : Nat} {tables : List (List (String × Data))} (hne : tables ≠ [])
    (hnames : ∀ fields ∈ tables, (fields.map (·.1)).Nodup)
    (h : ∀ fields ∈ tables, ∀ f ∈ fields, IsField room f.2) :
    IsField (room + 1) (.list (tables.map .table))

theorem IsValue.isPresent (h : IsValue d) : isPresent d = true := by
  cases h with
  | scalar h => cases d <;> first | rfl | exact h.elim
  | list h => rfl

theorem IsValue.hasHeader (h : IsValue d) : hasHeader d = false := by
  cases h with
  | scalar h => cases d <;> first | rfl | exact h.elim
  | @list items h =>
    cases items with
    | nil => rfl
    | cons d items =>
      have hd := h d List.mem_cons_self
      cases d <;> first | rfl | exact hd.elim

theorem hasHeader_tables {tables : List (List (String × Data))} (hne : tables ≠ []) :
    Toml.hasHeader (.list (tables.map .table)) = true := by
  have hall : (tables.map Data.table).all isTable = true := by
    rw [List.all_map]
    exact List.all_eq_true.mpr fun _ _ => rfl
  simp [Toml.hasHeader, hne, hall]

/-- A field holds nothing, has a header, or is a value. -/
theorem IsField.cases (h : IsField room d) :
    d = .null ∨ Toml.hasHeader d = true ∨ IsValue d := by
  cases h with
  | null => exact .inl rfl
  | value h => exact .inr (.inr h)
  | table hnames hheader h => exact .inr (.inl rfl)
  | tables hne hnames h => exact .inr (.inl (hasHeader_tables hne))

/-! ### Values of a table -/

theorem valueLines?_cons (name : String) (hd : isPresent d = true)
    (rest : List (String × Data)) : valueLines? ((name, d) :: rest) =
      if hasHeader d then valueLines? rest
      else do
        let value ← valueText? d
        return nameText name ++ " = ".toList ++ value ++ '\n' :: (← valueLines? rest) := by
  cases d <;> first | rfl | cases hd

/-- **The values of a table are written**, and lead to their entries in any context. -/
theorem exists_values (h : ∀ f ∈ fields, IsField room f.2) (hc : IsContext path fill)
    (hnames : ((entries ++ leavesOf fields).map (·.1)).Nodup) : ∃ text,
      valueLines? fields = some text ∧
        Reads ⟨path, fill entries⟩ text ⟨path, fill (entries ++ leavesOf fields)⟩ := by
  induction fields generalizing entries with
  | nil => exact ⟨[], rfl, by rw [leavesOf, nodesOf, List.filter_nil, List.append_nil]; exact .done _⟩
  | cons f rest ih =>
    obtain ⟨name, d⟩ := f
    have hrest : ∀ f ∈ rest, IsField room f.2 := fun f hf => h f (List.mem_cons_of_mem _ hf)
    have hd : IsField room d := h (name, d) List.mem_cons_self
    rcases hd.cases with rfl | hd | hd
    · exact ih hrest hnames
    · have hleaves : leavesOf ((name, d) :: rest) = leavesOf rest := by simp [leavesOf_cons, hd]
      rw [valueLines?_cons name (isPresent_of_hasHeader hd), if_pos hd, hleaves]
      exact ih hrest (hleaves ▸ hnames)
    · have hleaves : leavesOf ((name, d) :: rest) = (name, .leaf d) :: leavesOf rest := by
        simp [leavesOf_cons, hd.isPresent, hd.hasHeader]
      rw [hleaves] at hnames ⊢
      obtain ⟨s, hs, hspells⟩ := hd.exists_spells
      have hname := not_mem_of_nodup hnames
      rw [List.append_cons] at hnames ⊢
      obtain ⟨text, htext, hreads⟩ := ih hrest hnames
      refine ⟨_, ?_, Reads.field hspells (hc.putUnder? hname d) hreads⟩
      rw [valueLines?_cons name hd.isPresent, hd.hasHeader, if_neg Bool.false_ne_true, hs, htext]
      rfl

/-! ### Sections -/

/-- The sections of fields are written, and lead to their entries in any context. -/
def SectionsRead (path : List String) (fields : List (String × Data)) : Prop :=
  ∀ {fill : Entries → Entries} {entries : Entries} (current : List String), IsContext path fill →
    ((entries ++ headersOf fields).map (·.1)).Nodup → ∃ sections current',
      fieldSections? path fields = some sections ∧
        Follows ⟨current, fill entries⟩ sections ⟨current', fill (entries ++ headersOf fields)⟩

theorem fieldSections?_cons (path : List String) (f : String × Data) (rest : List (String × Data)) :
    fieldSections? path (f :: rest) = do
      let own ← fieldSections? path [f]
      return own ++ (← fieldSections? path rest) := by
  obtain ⟨name, d⟩ := f
  cases d with
  | table fields =>
    rw [fieldSections?, fieldSections?]
    cases sections? (path ++ [name]) fields <;> simp [fieldSections?]
  | list items =>
    rw [fieldSections?, fieldSections?]
    split_ifs
    · cases itemSections? (path ++ [name]) items <;> simp [fieldSections?]
    · simp [fieldSections?]
  | _ => simp [fieldSections?]

theorem sectionsRead_cons {f : String × Data} (h : SectionsRead path [f])
    (hrest : SectionsRead path fields) : SectionsRead path (f :: fields) := by
  intro fill entries current hc hnames
  have hheaders : headersOf (f :: fields) = headersOf [f] ++ headersOf fields := by
    rw [headersOf_cons, headersOf_cons]
    split_ifs <;> rfl
  rw [hheaders, ← List.append_assoc] at hnames ⊢
  have hown : ((entries ++ headersOf [f]).map (·.1)).Nodup := by
    rw [List.map_append] at hnames
    exact hnames.of_append_left
  obtain ⟨sections, current, hs, hfollows⟩ := h current hc hown
  obtain ⟨sections', current', hs', hfollows'⟩ := hrest current hc hnames
  exact ⟨sections ++ sections', current', by rw [fieldSections?_cons, hs, hs']; rfl,
    hfollows.append hfollows'⟩

theorem sectionsRead_of_forall (h : ∀ f ∈ fields, SectionsRead path [f]) :
    SectionsRead path fields := by
  induction fields with
  | nil =>
    intro fill entries current hc hnames
    refine ⟨[], current, by rw [fieldSections?], ?_⟩
    rw [headersOf, nodesOf, List.filter_nil, List.append_nil]
    exact .nil _
  | cons f fields ih =>
    exact sectionsRead_cons (h f List.mem_cons_self) (ih fun f hf => h f (List.mem_cons_of_mem _ hf))

/-- **What stands under a header** leads from an empty table to the table that was written. -/
theorem exists_body (h : ∀ f ∈ fields, IsField room f.2) (hnames : (fields.map (·.1)).Nodup)
    (hs : SectionsRead path fields) (hc : IsContext path fill) : ∃ values sections current',
      valueLines? fields = some values ∧ fieldSections? path fields = some sections ∧
        Reads ⟨path, fill []⟩ values ⟨path, fill (leavesOf fields)⟩ ∧
          Follows ⟨path, fill (leavesOf fields)⟩ sections
            ⟨current', fill (valuesFirst (nodesOf fields))⟩ := by
  have hnodup : ((leavesOf fields ++ headersOf fields).map (·.1)).Nodup := nodup_valuesFirst hnames
  have hleaves : (([] ++ leavesOf fields : Entries).map (·.1)).Nodup := by
    rw [List.map_append] at hnodup
    exact hnodup.of_append_left
  obtain ⟨values, hvalues, hreads⟩ := exists_values h hc hleaves
  obtain ⟨sections, current', hsections, hfollows⟩ := hs path hc hnodup
  exact ⟨values, sections, current', hvalues, hsections, hreads, hfollows⟩

/-- A sequence of tables is written, and leads to its tables behind those that are there. -/
theorem exists_items {tables : List (List (String × Data))}
    (h : ∀ fields ∈ tables, ∀ f ∈ fields, IsField room f.2)
    (hnames : ∀ fields ∈ tables, (fields.map (·.1)).Nodup)
    (hs : ∀ fields ∈ tables, SectionsRead (path ++ [name]) fields)
    (hlength : path.length + 1 < maxDepth) (hc : IsContext path fill)
    (hname : name ∉ entries.map (·.1)) (done : List Entries) (current : List String) :
    ∃ sections current', itemSections? (path ++ [name]) (tables.map .table) = some sections ∧
      Follows ⟨current, fill (withSeries name done entries)⟩ sections
        ⟨current', fill (withSeries name (done ++ seriesOf (tables.map .table)) entries)⟩ := by
  induction tables generalizing done current with
  | nil =>
    refine ⟨[], current, by rw [List.map_nil, itemSections?], ?_⟩
    rw [List.map_nil, seriesOf, List.append_nil]
    exact .nil _
  | cons fields tables ih =>
    obtain ⟨values, inner, current', hvalues, hinner, hreads, hfollows⟩ := exists_body
      (h fields List.mem_cons_self) (hnames fields List.mem_cons_self) (hs fields List.mem_cons_self)
      (hc.series hname done)
    obtain ⟨rest, current'', hrest, hfollows'⟩ := ih
      (fun fields hf => h fields (List.mem_cons_of_mem _ hf))
      (fun fields hf => hnames fields (List.mem_cons_of_mem _ hf))
      (fun fields hf => hs fields (List.mem_cons_of_mem _ hf))
      (done ++ [valuesFirst (nodesOf fields)]) current'
    have hread := Reads.item (p := ⟨current, fill (withSeries name done entries)⟩) hlength
      (hc.openItem? hname done) hreads
    have hseries : withSeries name (done ++ [valuesFirst (nodesOf fields)]) entries =
        entries ++ [(name, .series (done ++ [valuesFirst (nodesOf fields)]))] := by
      simp [withSeries]
    refine ⟨("[[".toList ++ pathText (path ++ [name]) ++ "]]\n".toList ++ values) :: inner ++ rest,
      current'', ?_, ?_⟩
    · rw [List.map_cons, itemSections?, hvalues, hinner, hrest]
      rfl
    · rw [hseries, List.append_assoc] at hfollows'
      rw [List.map_cons, seriesOf]
      exact (Follows.cons hread hfollows).append hfollows'

theorem sectionsRead_of_not_hasHeader (h : hasHeader d = false) :
    SectionsRead path [(name, d)] := by
  intro fill entries current hc hnames
  have hheaders : headersOf [(name, d)] = [] := by
    rw [headersOf_cons, h]
    rfl
  have hsections : fieldSections? path [(name, d)] = some [] := by
    cases d with
    | table fields => cases h
    | list items => simp [fieldSections?, h]
    | _ => simp [fieldSections?]
  rw [hheaders, List.append_nil]
  exact ⟨[], current, hsections, .nil _⟩

/-- **A field is written**, and leads to its entry in any context. -/
theorem IsField.sectionsRead (h : IsField room d) (hlength : path.length + room < maxDepth)
    (name : String) : SectionsRead path [(name, d)] := by
  induction h generalizing path name with
  | null => exact sectionsRead_of_not_hasHeader rfl
  | value h => exact sectionsRead_of_not_hasHeader h.hasHeader
  | @table room fields hnames hheader h ih =>
    intro fill entries current hc hnodup
    have hheaders : headersOf [(name, .table fields)] =
        [(name, .branch Origin.header (valuesFirst (nodesOf fields)))] := by
      rw [headersOf_cons]
      rfl
    rw [hheaders] at hnodup ⊢
    have hname := not_mem_of_nodup hnodup
    have hinner : SectionsRead (path ++ [name]) fields := sectionsRead_of_forall fun f hf =>
      ih f hf (by simp; omega) f.1
    obtain ⟨values, inner, current', hvalues, hsections, hreads, hfollows⟩ :=
      exists_body h hnames hinner (hc.branch hname)
    have hread := Reads.table (p := ⟨current, fill entries⟩) (by omega) (hc.openTable? hname) hreads
    refine ⟨_ :: inner, current', ?_, .cons hread hfollows⟩
    simp [fieldSections?, sections?, hvalues, hsections, hheader]
  | @tables room tables hne hnames h ih =>
    intro fill entries current hc hnodup
    have hheaders : headersOf [(name, .list (tables.map .table))] =
        [(name, .series (seriesOf (tables.map .table)))] := by
      rw [headersOf_cons, if_pos (hasHeader_tables hne), nodeOf, if_pos (hasHeader_tables hne)]
      rfl
    rw [hheaders] at hnodup ⊢
    have hname := not_mem_of_nodup hnodup
    have hinner : ∀ fields ∈ tables, SectionsRead (path ++ [name]) fields := fun fields hf =>
      sectionsRead_of_forall fun f hf' => ih fields hf f hf' (by simp; omega) f.1
    obtain ⟨sections, current', hsections, hfollows⟩ := exists_items h hnames hinner (by omega) hc
      hname [] current
    have hne : (seriesOf (tables.map .table)).isEmpty = false := by
      cases tables with
      | nil => exact absurd rfl hne
      | cons fields tables => rfl
    rw [List.nil_append, withSeries, withSeries, hne] at hfollows
    refine ⟨sections, current', ?_, hfollows⟩
    simp [fieldSections?, hasHeader_tables ‹tables ≠ []›, hsections]

/-! ### Documents -/

/-- What data is read back as. -/
def readBack (d : Data) : Data :=
  (nodeOf d).toData

/-- **A document is written, and is read back.** -/
theorem exists_print? (h : ∀ f ∈ fields, IsField room f.2) (hnames : (fields.map (·.1)).Nodup)
    (hroom : room < maxDepth) : ∃ text, print? (.table fields) = some text ∧
      parse? text = some (readBack (.table fields)) := by
  have hs : SectionsRead [] fields := sectionsRead_of_forall fun f hf =>
    (h f hf).sectionsRead (by simpa using hroom) f.1
  obtain ⟨values, sections, current, hvalues, hsections, hreads, hfollows⟩ :=
    exists_body h hnames hs isContext_id
  refine ⟨joinWith ['\n'] (if values.isEmpty then sections else values :: sections), ?_, ?_⟩
  · rw [print?, hvalues, hsections]
    rfl
  · have hreads : Reads ⟨[], []⟩ (joinWith ['\n']
        (if values.isEmpty then sections else values :: sections))
        ⟨current, valuesFirst (nodesOf fields)⟩ := by
      split_ifs with hempty
      · rw [← hreads.eq_of_nil (List.isEmpty_iff.mp hempty)] at hfollows
        exact hfollows.joinWith
      · exact (Follows.cons hreads hfollows).joinWith
    rw [hreads.parse?_eq, readBack, nodeOf]
    rfl

theorem readBack_eq_self (h : hasHeader d = false) : readBack d = d := by
  rw [readBack, nodeOf_eq_leaf h]
  rfl

theorem entriesData_eq_map (entries : Entries) :
    entriesData entries = entries.map fun e => (e.1, e.2.toData) := by
  induction entries with
  | nil => rfl
  | cons e rest ih => rw [entriesData, ih, List.map_cons]

/-- A sequence of tables is read back one by one. -/
theorem readBack_tables (tables : List (List (String × Data))) :
    readBack (.list (tables.map .table)) = .list ((tables.map .table).map readBack) := by
  have hseries : tablesData (seriesOf (tables.map .table)) = (tables.map .table).map readBack := by
    induction tables with
    | nil => rfl
    | cons fields tables ih =>
      rw [List.map_cons, seriesOf, tablesData, ih, List.map_cons, readBack, nodeOf, Node.toData]
  by_cases hne : tables = []
  · subst hne
    exact readBack_eq_self rfl
  · rw [readBack, nodeOf, if_pos (hasHeader_tables hne), Node.toData, hseries]

theorem nodesOf_eq_map (fields : List (String × Data)) : nodesOf fields =
    (fields.filter fun f => isPresent f.2).map fun f => (f.1, nodeOf f.2) := by
  induction fields with
  | nil => rfl
  | cons f rest ih =>
    rw [nodesOf, ih, List.filter_cons]
    split_ifs <;> rfl

theorem readBack_table (fields : List (String × Data)) : readBack (.table fields) =
    .table ((valuesFirst (nodesOf fields)).map fun e => (e.1, e.2.toData)) := by
  rw [readBack, nodeOf, Node.toData, entriesData_eq_map]

/-- A table of nothing but values is read back as it is. -/
theorem readBack_table_eq_self
    (h : ∀ f ∈ fields, isPresent f.2 = true ∧ hasHeader f.2 = false) :
    readBack (.table fields) = .table fields := by
  have hnodes : nodesOf fields = fields.map fun f => (f.1, .leaf f.2) := by
    rw [nodesOf_eq_map, List.filter_eq_self.mpr fun f hf => (h f hf).1]
    exact List.map_congr_left fun f hf => by rw [nodeOf_eq_leaf (h f hf).2]
  have hfirst : valuesFirst (nodesOf fields) = nodesOf fields := by
    rw [hnodes, valuesFirst, List.filter_eq_self.mpr, List.filter_eq_nil_iff.mpr, List.append_nil]
    · exact List.forall_mem_map.mpr fun f _ => by simp [isLeaf]
    · exact List.forall_mem_map.mpr fun f _ => rfl
  rw [readBack_table, hfirst, hnodes, List.map_map]
  exact congrArg Data.table (List.map_id fields)

/-- What a document gives back of the data of a field: nothing of what holds nothing. -/
def givenBack? (d : Data) : Option Data :=
  if isPresent d then some (readBack d) else none

/-- **The fields of a structure are all found in the table that is read back**, but for those that
held nothing. -/
theorem exists_fields?_readBack (fields : List (String × Data))
    (hnames : (fields.map (·.1)).Nodup) (names : List String) :
    ∃ f : Data.Fields, (readBack (.table fields)).fields? names = some f ∧
      ∀ name ∈ names, f.find? name =
        (Data.Fields.find? ⟨true, fields⟩ name).bind givenBack? := by
  have hback : (((valuesFirst (nodesOf fields)).map fun e => (e.1, e.2.toData)).map (·.1)).Nodup := by
    rw [List.map_map]
    exact nodup_valuesFirst hnames
  obtain ⟨f, hf, -, hfind⟩ := Data.exists_fields? hback names
  refine ⟨f, by rw [readBack_table, hf], fun name hname => ?_⟩
  rw [hfind name hname]
  refine Option.ext fun d => ?_
  rw [Data.Fields.find?_eq_some_iff hback]
  simp only [List.mem_map, (valuesFirst_perm _).mem_iff, nodesOf_eq_map, List.mem_filter,
    Option.bind_eq_some_iff, givenBack?, Option.ite_none_right_eq_some, Option.some.injEq,
    Data.Fields.find?_eq_some_iff hnames]
  constructor
  · rintro ⟨_, ⟨⟨n, d⟩, ⟨hd, hpresent⟩, rfl⟩, ⟨⟩⟩
    exact ⟨d, hd, hpresent, rfl⟩
  · rintro ⟨d, hd, hpresent, rfl⟩
    exact ⟨_, ⟨(name, d), ⟨hd, hpresent⟩, rfl⟩, rfl⟩

theorem givenBack?_of_isPlain (h : d.isPlain = true) : givenBack? d = some d := by
  have hpresent : isPresent d = true := by
    cases d <;> first | rfl | cases h
  rw [givenBack?, if_pos hpresent]
  cases d with
  | list items =>
    cases items with
    | nil => rw [readBack_eq_self rfl]
    | cons d items =>
      cases d with
      | text s => rw [readBack_eq_self rfl]
      | _ => cases h
  | table fields =>
    rw [readBack_table_eq_self fun f hf => ?_]
    have htext := List.all_eq_true.mp h f hf
    cases hd : f.2 with
    | text s => exact ⟨rfl, rfl⟩
    | _ =>
      rw [hd] at htext
      cases htext
  | _ => rw [readBack_eq_self rfl]

/-- **A document gives back what structures are read from.** -/
theorem keeps_givenBack : Data.Keeps givenBack? where
  null := fun _ h => absurd h (Option.not_mem_none _)
  plain := fun _ => givenBack?_of_isPlain
  table := fun fields h => ⟨readBack (.table fields), rfl, exists_fields?_readBack fields h⟩

/-! ### What cannot be written -/

/-- A value that has no form is in the way of all others of its table. -/
theorem valueLines?_eq_none (h : ∃ f ∈ fields, isPresent f.2 = true ∧ hasHeader f.2 = false ∧
    valueText? f.2 = none) : valueLines? fields = none := by
  induction fields with
  | nil => simp at h
  | cons f rest ih =>
    obtain ⟨name, d⟩ := f
    obtain ⟨f, hf, hpresent, hheader, hnone⟩ := h
    rcases List.mem_cons.mp hf with rfl | hf
    · rw [valueLines?_cons name hpresent, hheader, if_neg Bool.false_ne_true, hnone]
      rfl
    · have hrest := ih ⟨f, hf, hpresent, hheader, hnone⟩
      by_cases hd : isPresent d = true
      · rw [valueLines?_cons name hd, hrest]
        split_ifs
        · rfl
        · cases valueText? d <;> rfl
      · obtain rfl : d = .null := by
          cases d <;> first | rfl | exact absurd rfl hd
        exact hrest

theorem fieldSections?_eq_none {f : String × Data} (hf : f ∈ fields)
    (hnone : fieldSections? path [f] = none) : fieldSections? path fields = none := by
  induction fields with
  | nil => exact absurd hf List.not_mem_nil
  | cons f' rest ih =>
    rw [fieldSections?_cons]
    rcases List.mem_cons.mp hf with rfl | hf
    · rw [hnone]
      rfl
    · rw [ih hf]
      cases fieldSections? path [f'] <;> rfl

theorem itemSections?_eq_none {tables : List (List (String × Data))} (hf : fields ∈ tables)
    (hnone : valueLines? fields = none) : itemSections? path (tables.map .table) = none := by
  induction tables with
  | nil => exact absurd hf List.not_mem_nil
  | cons fields' rest ih =>
    rw [List.map_cons, itemSections?]
    rcases List.mem_cons.mp hf with rfl | hf
    · rw [hnone]
      rfl
    · rw [ih hf]
      cases valueLines? fields' <;> cases fieldSections? path fields' <;> rfl

/-- A value that has no form is in the way of the whole document, be it in the outermost table or in
a sequence of tables in it. -/
theorem print?_eq_none (h : valueLines? fields = none ∨ fieldSections? [] fields = none) :
    print? (.table fields) = none := by
  rw [print?]
  rcases h with h | h
  · rw [h]
    rfl
  · rw [h]
    cases valueLines? fields <;> rfl

end Metasearch.Toml
