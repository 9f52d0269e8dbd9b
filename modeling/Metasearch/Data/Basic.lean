import Metasearch.Number.Double

/-!
# Trees of data

What a document in either of the two exchange formats (JSON and TOML) denotes. Records,
configurations and settings are written to such a tree and read from it, so that each is
described once for both formats.

A table is a list of fields in document order. A reader may refuse a table that names one of its
fields twice, so repeated names are kept.
-/

namespace Metasearch

/-- What a document denotes. -/
inductive Data where
  /-- Nothing. -/
  | null
  /-- A truth value. -/
  | bool (b : Bool)
  /-- An integer that fits 64 bits, signed or unsigned. -/
  | int (i : Int)
  /-- Any other number. -/
  | float (x : Double)
  /-- A text. -/
  | text (s : String)
  /-- A sequence. -/
  | list (items : List Data)
  /-- Named fields in document order. -/
  | table (fields : List (String × Data))
  /-- What is well formed in its document and denotes no value: a number out of range, a text
  with an unpaired surrogate, nesting past the limit, a date. It can only be skipped. -/
  | unreadable
deriving Inhabited

namespace Data

/-- The largest unsigned 64-bit integer. -/
def maxUnsigned : Int := 18446744073709551615

/-- The largest signed 64-bit integer. -/
def maxSigned : Int := 9223372036854775807

/-- The least signed 64-bit integer. -/
def minSigned : Int := -9223372036854775808

/-- A natural number as data. -/
def ofNat (n : Nat) : Data := .int n

/-- An optional value as data: nothing, or the value. -/
def ofOption {α : Type} (encode : α → Data) : Option α → Data
  | none => .null
  | some a => encode a

/-- A field that is left out when it is absent. -/
def optionalField {α : Type} (name : String) (encode : α → Data) :
    Option α → List (String × Data)
  | none => []
  | some a => [(name, encode a)]

end Data
end Metasearch
