import Metasearch.Data.Decode
import Metasearch.Proofs.Text.Pieces

/-!
# Values read from the data they are written to

What is written for a value is read as that value, for each kind of value that structures are made
of. A structure is read from a table by looking its fields up, so all that matters of a table in
which no name stands twice is what is found under each name.

A document does not give back all that is written to it: nothing may be left out, and the fields of
a table may change places. What is certain is the same for every format, and `Keeps` says what it
is. So that a structure is read back is proved once, and not for each format.

## Main definitions

* `Keeps`: what a format gives back of the data of a field.

## Main results

* `asOption?_ofOption`, `asList?_map`, `asUnsigned?_ofNat`: values.
* `exists_fields?`: the fields of a structure in a table.
* `Keeps.maybe?_eq_some`: an optional field in any format.
-/

namespace Metasearch.Data

open Metasearch.Text

variable {α : Type} {encode : α → Data} {read : Data → Option α} {fields : List (String × Data)}
  {name : String}

/-! ### Values -/

theorem asOption?_ofOption {o : Option α} (hnull : ∀ a, encode a ≠ .null)
    (h : ∀ a ∈ o, read (encode a) = some a) : asOption? read (ofOption encode o) = some o := by
  cases o with
  | none => rfl
  | some a =>
    rw [ofOption, asOption?, h a rfl]
    · rfl
    · exact hnull a

theorem asList?_map {l : List α} (h : ∀ a ∈ l, read (encode a) = some a) :
    asList? read (.list (l.map encode)) = some l := by
  rw [asList?]
  exact mapM_map h

theorem asUnsigned?_ofNat {n : Nat} {bound : Int} (h : (n : Int) ≤ bound) :
    asUnsigned? bound (ofNat n) = some n :=
  (if_pos ⟨Int.natCast_nonneg n, h⟩).trans (congrArg some (Int.toNat_natCast n))

/-! ### Fields -/

theorem distinct_iff {l : List String} : distinct l = true ↔ l.Nodup := by
  induction l with
  | nil => simp [distinct]
  | cons n r ih => simp [distinct, ih]

/-- The fields of a table. -/
def fieldsOf : Data → List (String × Data)
  | table fields => fields
  | _ => []

/-- The fields of a structure are all found in a table that names none of them twice. -/
theorem exists_fields? (h : (fields.map (·.1)).Nodup) (names : List String) :
    ∃ f : Fields, (table fields).fields? names = some f ∧ f.named = true ∧
      ∀ name ∈ names, f.find? name = Fields.find? ⟨true, fields⟩ name := by
  refine ⟨⟨true, fields.filter fun f => names.contains f.1⟩, ?_, rfl, fun name hname => ?_⟩
  · refine if_pos (distinct_iff.mpr ?_)
    exact h.sublist (List.Sublist.map _ List.filter_sublist)
  · rw [Fields.find?, Fields.find?, List.find?_filter]
    congr 2
    funext f
    by_cases hf : f.1 = name <;> simp_all

theorem sublist_optionalField (name : String) (encode : α → Data) (o : Option α) :
    ((optionalField name encode o).map (·.1)).Sublist [name] := by
  cases o with
  | none => exact List.nil_sublist [name]
  | some a => exact List.Sublist.refl [name]

namespace Fields

theorem find?_cons (named : Bool) (f : String × Data) (rest : List (String × Data)) :
    find? ⟨named, f :: rest⟩ name =
      if f.1 = name then some f.2 else find? ⟨named, rest⟩ name := by
  by_cases h : f.1 = name <;> simp [find?, h]

/-- Where no name stands twice, what is found under a name is what stands there. -/
theorem find?_eq_some_iff {named : Bool} {d : Data} (h : (fields.map (·.1)).Nodup) :
    find? ⟨named, fields⟩ name = some d ↔ (name, d) ∈ fields := by
  induction fields with
  | nil => simp [find?]
  | cons f rest ih =>
    obtain ⟨hf, hrest⟩ := List.nodup_cons.mp h
    rw [find?_cons, List.mem_cons, ← ih hrest]
    split_ifs with hname
    · have hnone : find? ⟨named, rest⟩ name ≠ some d := fun hd => by
        rw [ih hrest] at hd
        exact hf (List.mem_map.mpr ⟨_, hd, hname.symm⟩)
      simp [hnone, Prod.ext_iff, hname, eq_comm]
    · have hne : (name, d) ≠ f := fun heq => hname (congrArg Prod.fst heq).symm
      simp [hne]

theorem find?_append (named : Bool) (l m : List (String × Data)) :
    find? ⟨named, l ++ m⟩ name = (find? ⟨named, l⟩ name).or (find? ⟨named, m⟩ name) := by
  simp only [find?, List.find?_append]
  cases List.find? (fun e => e.1 == name) l <;> rfl

theorem find?_optionalField (named : Bool) (n : String) (encode : α → Data) (o : Option α) :
    find? ⟨named, optionalField n encode o⟩ name = if n = name then o.map encode else none := by
  cases o <;> by_cases h : n = name <;> simp [find?, optionalField, h]

/-- A field that is found is read. -/
theorem required?_eq_some {f : Fields} {d : Data} {a : α} (hfind : f.find? name = some d)
    (h : read d = some a) : f.required? name read = some a := by
  rw [required?, hfind, Option.bind_some, h]

theorem orElse?_eq_some {f : Fields} {d : Data} {a other : α} (hfind : f.find? name = some d)
    (h : read d = some a) : f.orElse? name read other = some a := by
  rw [orElse?, hfind]
  exact h

/-- A field that is left out when it is absent is read as what it was. -/
theorem maybe?_eq_some {f : Fields} {o : Option α} (hfind : f.find? name = o.map encode)
    (hnull : ∀ a, encode a ≠ .null) (h : ∀ a ∈ o, read (encode a) = some a) :
    f.maybe? name read = some o := by
  cases o with
  | none => rw [maybe?, orElse?, hfind, Option.map_none]
  | some a =>
    exact orElse?_eq_some hfind (asOption?_ofOption (o := some a) hnull h)

end Fields

/-! ### Formats -/

/-- Holds of texts. -/
def isText : Data → Bool
  | .text _ => true
  | _ => false

/-- Holds of what is the same in every format: values, and sequences and tables of texts. -/
def isPlain : Data → Bool
  | .bool _ | .int _ | .float _ | .text _ => true
  | .list items => items.all isText
  | .table fields => fields.all fun f => f.2.isText
  | _ => false

/-- What a format may give back of the data of a field, so that structures are read from it. -/
structure Keeps (back : Data → Option Data) : Prop where
  /-- What is nothing is left out or stays nothing. -/
  null : ∀ d ∈ back .null, d = .null
  /-- What is plain stays as it is. -/
  plain : ∀ d, d.isPlain = true → back d = some d
  /-- In a table, each field is found as it is given back. -/
  table : ∀ fields, (fields.map (·.1)).Nodup → ∃ d, back (.table fields) = some d ∧
    ∀ names, ∃ f : Fields, d.fields? names = some f ∧
      ∀ name ∈ names, f.find? name = (Fields.find? ⟨true, fields⟩ name).bind back

namespace Keeps

variable {back : Data → Option Data} {f : Fields}

/-- An optional field is read back as it was, present or not. -/
theorem maybe?_eq_some {o : Option α} (h : Keeps back) (hnull : read .null = none)
    (hfind : f.find? name = back (ofOption encode o))
    (hread : ∀ a ∈ o, ∃ d, back (encode a) = some d ∧ read d = some a) :
    f.maybe? name read = some o := by
  cases o with
  | none =>
    rw [Fields.maybe?, Fields.orElse?, hfind, ofOption]
    cases hback : back .null with
    | none => rfl
    | some d =>
      obtain rfl := h.null d hback
      rfl
  | some a =>
    obtain ⟨d, hd, hread⟩ := hread a rfl
    have hne : d ≠ .null := by
      rintro rfl
      exact Option.some_ne_none a (hread.symm.trans hnull)
    have hvalue : asOption? read d = some (some a) := by
      rw [asOption?, hread, Option.map_some]
      exact hne
    exact Fields.orElse?_eq_some (hfind.trans hd) hvalue

end Keeps

/-- Data is all given back where nothing is done to it. -/
theorem keeps_some : Keeps some where
  null := fun _ h => (Option.some.inj h).symm
  plain := fun _ _ => rfl
  table := fun fields h => ⟨.table fields, rfl, fun names => by
    obtain ⟨f, hf, -, hfind⟩ := exists_fields? h names
    exact ⟨f, hf, fun name hname => by rw [hfind name hname, Option.bind_fun_some]⟩⟩

end Metasearch.Data
