import Metasearch.Data.Basic

/-!
# Reading data

A reader of a value refuses with nothing: what is wrong with a document is not told. Structures
are read from a table, whose unknown fields are skipped and whose known fields stand once, or
from a sequence of their fields in order.

## Main definitions

* `asText?`, `asBool?`, `asUnsigned?`, `asSigned?`, `asFloat?`, `asOption?`, `asList?`,
  `asName?`: values.
* `Fields`: the fields of one structure.
* `Fields.required?`, `Fields.optional?`, `Fields.orElse?`: one field.
-/

namespace Metasearch.Data

/-! ### Values -/

/-- A text. -/
def asText? : Data → Option String
  | .text s => some s
  | _ => none

/-- A truth value. -/
def asBool? : Data → Option Bool
  | .bool b => some b
  | _ => none

/-- An integer from zero to a bound. -/
def asUnsigned? (bound : Int) : Data → Option Nat
  | .int i => if 0 ≤ i ∧ i ≤ bound then some i.toNat else none
  | _ => none

/-- A 64-bit unsigned integer. -/
def asNat? : Data → Option Nat :=
  asUnsigned? maxUnsigned

/-- A 64-bit signed integer. -/
def asSigned? : Data → Option Int
  | .int i => if minSigned ≤ i ∧ i ≤ maxSigned then some i else none
  | _ => none

/-- A number of either kind as a double. -/
def asFloat? : Data → Option Double
  | .int i => some (Double.ofInt i)
  | .float x => some x
  | _ => none

/-- Nothing, or a value. -/
def asOption? {α : Type} (read : Data → Option α) : Data → Option (Option α)
  | .null => some none
  | d => (read d).map some

/-- A sequence of values. -/
def asList? {α : Type} (read : Data → Option α) : Data → Option (List α)
  | .list items => items.mapM read
  | _ => none

/-- A name out of a fixed choice: a text, or a table with that name alone and nothing under
it. -/
def asName? : Data → Option String
  | .text s => some s
  | .table [(name, .null)] => some name
  | _ => none

/-- Fields that are all texts; a later one takes the place of an earlier one of its name. -/
def asTexts? : Data → Option (List (String × String))
  | .table fields => fields.mapM fun (name, d) => (asText? d).map fun s => (name, s)
  | _ => none

mutual

/-- Holds of data that denotes a value throughout. -/
def isReadable : Data → Bool
  | .unreadable => false
  | .list items => areReadable items
  | .table fields => fieldsReadable fields
  | _ => true

/-- Holds of items that all denote values. -/
def areReadable : List Data → Bool
  | [] => true
  | d :: r => isReadable d && areReadable r

/-- Holds of fields that all denote values. -/
def fieldsReadable : List (String × Data) → Bool
  | [] => true
  | (_, d) :: r => isReadable d && fieldsReadable r

end

/-! ### Structures -/

/-- The fields of one structure. -/
structure Fields where
  /-- The fields come from a table; from a sequence, one can be absent only by default. -/
  named : Bool
  /-- The fields that are present. -/
  entries : List (String × Data)

/-- Holds of a list of names without a repetition. -/
def distinct : List String → Bool
  | [] => true
  | n :: r => !r.contains n && distinct r

/-- The fields of a structure with the given field names. -/
def fields? (names : List String) : Data → Option Fields
  | .table fields =>
    let known := fields.filter fun f => names.contains f.1
    if distinct (known.map (·.1)) then some ⟨true, known⟩ else none
  | .list items => if items.length ≤ names.length then some ⟨false, names.zip items⟩ else none
  | _ => none

namespace Fields

/-- The data of a field, if it is present. -/
def find? (f : Fields) (name : String) : Option Data :=
  (f.entries.find? fun e => e.1 == name).map (·.2)

/-- A field that has to be present. -/
def required? {α : Type} (f : Fields) (name : String) (read : Data → Option α) : Option α :=
  (f.find? name).bind read

/-- A field that holds nothing when it is absent from a table. -/
def optional? {α : Type} (f : Fields) (name : String) (read : Data → Option α) :
    Option (Option α) :=
  match f.find? name with
  | some d => asOption? read d
  | none => if f.named then some none else none

/-- A field with a value for when it is absent. -/
def orElse? {α : Type} (f : Fields) (name : String) (read : Data → Option α) (other : α) :
    Option α :=
  match f.find? name with
  | some d => read d
  | none => some other

/-- A field that holds nothing when it is absent. -/
def maybe? {α : Type} (f : Fields) (name : String) (read : Data → Option α) :
    Option (Option α) :=
  f.orElse? name (asOption? read) none

end Fields
end Metasearch.Data
