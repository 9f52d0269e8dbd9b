import Metasearch.Number.Base
import Metasearch.Text.Space

/-!
# Tables of numbers

A large table is kept as a text. Its words are set apart by blanks and line ends; a word is a row
of hexadecimal numbers with hyphens between them, and a word that ends in a colon is a number
under which the rows after it stand.

## Main definitions

* `words`: the words of a text.
* `rows`, `groups`: a table without and with numbers over its rows.
* `covers`: whether a number lies in one of the ranges that rows are.
-/

namespace Metasearch.Number

open Metasearch.Text

/-- The words of a text that are separated by blanks or line ends; `word` is the word that is being
read, backwards. -/
def wordsFrom (word : List Char) : List Char → List (List Char)
  | [] => if word.isEmpty then [] else [word.reverse]
  | c :: r =>
    if c = ' ' || c = '\n' then
      if word.isEmpty then wordsFrom [] r else word.reverse :: wordsFrom [] r
    else wordsFrom (c :: word) r

/-- The words of a text that are separated by blanks or line ends. -/
def words (text : String) : List (List Char) :=
  wordsFrom [] text.toList

/-- The numbers of a word. -/
def rowOf (word : List Char) : List Nat :=
  (splitWhere (· == '-') word).map fun s => (valueIn? 16 s).getD 0

/-- The rows of a table. -/
def rows (text : String) : List (List Nat) :=
  (words text).map rowOf

/-- Rows that stand under a number. -/
structure Group where
  /-- The number. -/
  key : Nat
  /-- The rows. -/
  rows : List (List Nat)

/-- The groups that words make, the last word first. -/
def groupsOf : List (List Char) → List (List Nat) → List Group
  | [], _ => []
  | word :: rest, below =>
    if word.getLast? = some ':' then
      ⟨(valueIn? 16 word.dropLast).getD 0, below⟩ :: groupsOf rest []
    else groupsOf rest (rowOf word :: below)

/-- The groups of a table. -/
def groups (text : String) : List Group :=
  (groupsOf (words text).reverse []).reverse

/-- Holds of the numbers in a range: a row of one number, or of the first and the last. -/
def isInRange (n : Nat) : List Nat → Bool
  | [a] => n == a
  | [a, b] => a ≤ n && n ≤ b
  | _ => false

/-- Holds of the numbers in one of several ranges. -/
def covers (ranges : List (List Nat)) (n : Nat) : Bool :=
  ranges.any (isInRange n)

end Metasearch.Number
