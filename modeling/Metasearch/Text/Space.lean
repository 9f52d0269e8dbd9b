/-!
# White space and ASCII case

Text is handled as a list of characters. White space is the Unicode property `White_Space`,
case folding and digits are those of ASCII: every format of this library draws the line there.

## Main definitions

* `isSpace`: the 25 characters that have the property.
* `trim`: the text without white space at either end.
* `lower`: ASCII letters made small, all else kept.
* `afterFirst`: what follows the first character that satisfies a predicate.
-/

namespace Metasearch.Text

/-- White space as the Unicode property `White_Space` has it. -/
def isSpace (c : Char) : Bool :=
  let n := c.toNat
  (9 ≤ n && n ≤ 13) || n == 0x20 || n == 0x85 || n == 0xA0 || n == 0x1680 ||
    (0x2000 ≤ n && n ≤ 0x200A) || n == 0x2028 || n == 0x2029 || n == 0x202F ||
    n == 0x205F || n == 0x3000

/-- White space as markup and style sheets have it: tab, line feed, form feed, carriage
return and the space. -/
def isMarkupSpace (c : Char) : Bool :=
  c == '\t' || c == '\n' || c == '\x0c' || c == '\r' || c == ' '

/-- Drop the longest tail whose characters all satisfy `p`. -/
def dropTailWhile {α : Type} (p : α → Bool) : List α → List α
  | [] => []
  | c :: r =>
    match dropTailWhile p r with
    | [] => if p c then [] else [c]
    | kept => c :: kept

/-- Drop what satisfies `p` from both ends. -/
def trimWhere {α : Type} (p : α → Bool) (s : List α) : List α :=
  dropTailWhile p (s.dropWhile p)

/-- The text without white space at either end. -/
def trim (s : List Char) : List Char :=
  trimWhere isSpace s

/-- `trim` on a string. -/
def trimmed (s : String) : String :=
  String.ofList (trim s.toList)

/-- Holds of a text that is empty or made of white space only. -/
def isBlank (s : List Char) : Bool :=
  s.all isSpace

/-- ASCII letters made small. -/
def lower (s : List Char) : List Char :=
  s.map Char.toLower

/-- `lower` on a string. -/
def lowered (s : String) : String :=
  String.ofList (lower s.toList)

/-- What follows the first element that satisfies `p`, if there is one. -/
def afterFirst {α : Type} (p : α → Bool) (s : List α) : Option (List α) :=
  match s.dropWhile fun c => !p c with
  | [] => none
  | _ :: r => some r

/-- What stands before the first element that satisfies `p`: all, if there is none. -/
def beforeFirst {α : Type} (p : α → Bool) (s : List α) : List α :=
  s.takeWhile fun c => !p c

/-- The pieces between the elements that satisfy `p`; one piece more than there are such
elements. -/
def splitWhere {α : Type} (p : α → Bool) : List α → List (List α)
  | [] => [[]]
  | c :: r =>
    if p c then [] :: splitWhere p r
    else
      match splitWhere p r with
      | [] => [[c]]
      | piece :: pieces => (c :: piece) :: pieces

/-- Pieces written one after the other with `sep` between neighbours. -/
def joinWith {α : Type} (sep : List α) : List (List α) → List α
  | [] => []
  | [s] => s
  | s :: t :: rest => s ++ sep ++ joinWith sep (t :: rest)

/-- Holds when `needle` stands somewhere in `s`. -/
def occursIn (needle : List Char) : List Char → Bool
  | [] => needle.isEmpty
  | c :: r => needle.isPrefixOf (c :: r) || occursIn needle r

/-- What is left of `s` after a given start. -/
def stripStart (start s : List Char) : Option (List Char) :=
  if start.isPrefixOf s then some (s.drop start.length) else none

/-! ### Lengths and joins -/

/-- What follows a separator is shorter than the whole. -/
theorem length_afterFirst_lt {α : Type} {p : α → Bool} {s r : List α}
    (h : afterFirst p s = some r) : r.length < s.length := by
  unfold afterFirst at h
  split at h
  · exact absurd h (by simp)
  · rename_i c r' hd
    have hle := (s.dropWhile_suffix fun c => !p c).length_le
    rw [hd] at hle
    cases h
    exact hle

/-- A split has a part, even that of the empty text. -/
theorem splitWhere_ne_nil {α : Type} (p : α → Bool) (s : List α) : splitWhere p s ≠ [] := by
  cases s with
  | nil => simp [splitWhere]
  | cons c r =>
    rw [splitWhere]
    split
    · simp
    · split <;> simp

/-- Putting the separator back between the pieces gives the text again. -/
theorem joinWith_splitWhere {α : Type} [DecidableEq α] (d : α) (s : List α) :
    joinWith [d] (splitWhere (· == d) s) = s := by
  induction s with
  | nil => rfl
  | cons c r ih =>
    rw [splitWhere]
    obtain ⟨piece, pieces, hp⟩ := List.exists_cons_of_ne_nil (splitWhere_ne_nil (· == d) r)
    rw [hp] at ih ⊢
    by_cases hc : c = d
    · subst hc
      simp [joinWith, ih]
    · cases pieces with
      | nil => simpa [hc, joinWith] using ih
      | cons q qs => simpa [hc, joinWith] using ih

end Metasearch.Text
