import Metasearch.Css.Component
import Metasearch.Css.Selector

/-!
# Reading selectors

The components of a selector are first read as pieces: conditions, links, and blanks. The pieces are
then joined into a chain. Selectors in the brackets of a condition are read in the same way, one
level deeper.

## Main definitions

* `Piece`, `pieces?`: what components say.
* `chain?`: the selector that pieces make up.
* `Selector.parse?`: the alternatives that a text describes.
-/

namespace Metasearch.Css

open Metasearch.Text

/-- The components without the blanks that they begin with. -/
def skipBlanks : List Component → List Component
  | .token .blank :: r => skipBlanks r
  | s => s

/-! ### Conditions on attributes -/

/-- The attributes whose capitals do not count in text documents. -/
def looseAttributes : List String :=
  ["accept", "accept-charset", "align", "alink", "axis", "bgcolor", "charset", "checked", "clear",
    "codetype", "color", "compact", "declare", "defer", "dir", "direction", "disabled", "enctype",
    "face", "frame", "hreflang", "http-equiv", "lang", "language", "link", "media", "method",
    "multiple", "nohref", "noresize", "noshade", "nowrap", "readonly", "rel", "rev", "rules",
    "scope", "scrolling", "selected", "shape", "target", "text", "type", "valign", "valuetype",
    "vlink"]

/-- The comparison that a sign before an equals sign stands for. -/
def comparison? : Component → Option Comparison
  | .token (.sign '=') => some .equal
  | .token (.comparison '~') => some .word
  | .token (.comparison '|') => some .dash
  | .token (.comparison '^') => some .start
  | .token (.comparison '$') => some .finish
  | .token (.comparison '*') => some .inside
  | _ => none

/-- Whether capitals count, by what stands after a value. -/
def capitals? (loose : Bool) (s : List Component) : Option Capitals :=
  match skipBlanks s with
  | [] => some (if loose then .ignoredInText else .count)
  | .token (.name flag) :: r =>
    if !(skipBlanks r).isEmpty then none
    else if lower flag == ['i'] then some .ignored
    else if lower flag == ['s'] then some .count
    else none
  | _ => none

/-- What is asked of the value of an attribute. -/
def valueTest? (loose : Bool) (s : List Component) :
    Option (Option (Comparison × List Char × Capitals)) :=
  match skipBlanks s with
  | [] => some none
  | c :: r => do
    let comparison ← comparison? c
    match skipBlanks r with
    | .token (.name value) :: r => return some (comparison, value, ← capitals? loose r)
    | .token (.string value) :: r => return some (comparison, value, ← capitals? loose r)
    | _ => none

/-- The condition that stands in square brackets. -/
def attributeTest? (s : List Component) : Option AttributeTest :=
  match skipBlanks s with
  | .token (.sign '*') :: .token (.sign '|') :: .token (.name name) :: r =>
    (valueTest? false r).map fun value => ⟨name, true, value⟩
  | .token (.sign '|') :: .token (.name name) :: r => plain name r
  | .token (.name _) :: .token (.sign '|') :: _ => none
  | .token (.name name) :: r => plain name r
  | _ => none
where
  /-- A condition on an attribute without a vocabulary. -/
  plain (name : List Char) (r : List Component) : Option AttributeTest :=
    let loose := looseAttributes.contains (String.ofList (lower name))
    (valueTest? loose r).map fun value => ⟨name, false, value⟩

/-! ### Counting -/

/-- A number after the letter in a formula for counting. -/
def offset? (s : List Component) : Option Int :=
  let unsigned (s : List Component) : Option Int :=
    match skipBlanks s with
    | .token (.number false (some b)) :: r => if (skipBlanks r).isEmpty then some b else none
    | _ => none
  match skipBlanks s with
  | [] => some 0
  | .token (.sign '+') :: r => unsigned r
  | .token (.sign '-') :: r => (unsigned r).map (- ·)
  | .token (.number true (some b)) :: r => if (skipBlanks r).isEmpty then some b else none
  | _ => none

/-- A number after the letter and a hyphen. -/
def negative? (s : List Component) : Option Int :=
  match skipBlanks s with
  | .token (.number false (some b)) :: r => if (skipBlanks r).isEmpty then some (-b) else none
  | _ => none

/-- Step and first number of a formula, from its letter on: `n`, `n-`, or `n-3`. -/
def formula? (a : Int) (letter : List Char) (s : List Component) : Option (Int × Int) :=
  match lower letter with
  | ['n'] => (offset? s).map (a, ·)
  | ['n', '-'] => (negative? s).map (a, ·)
  | 'n' :: '-' :: digits =>
    if digits.all Char.isDigit && (skipBlanks s).isEmpty then
      some (a, -(min (Number.value digits : Int) (largest + 1)))
    else none
  | _ => none

/-- Step and first number of a formula for counting. -/
def counting? (s : List Component) : Option (Int × Int) :=
  match skipBlanks s with
  | .token (.number _ (some b)) :: r => if (skipBlanks r).isEmpty then some (0, b) else none
  | .token (.dimension (some a) unit) :: r => formula? a unit r
  | .token (.sign '+') :: .token (.name letter) :: r => formula? 1 letter r
  | .token (.name word) :: r =>
    if lower word == "even".toList then if (skipBlanks r).isEmpty then some (2, 0) else none
    else if lower word == "odd".toList then if (skipBlanks r).isEmpty then some (2, 1) else none
    else
      match word with
      | '-' :: letter => formula? (-1) letter r
      | letter => formula? 1 letter r
  | _ => none

/-! ### Pieces -/

/-- A piece of a selector. -/
inductive Piece where
  /-- Conditions on the name, which come first. -/
  | type (conditions : List Simple)
  /-- Other conditions. -/
  | part (conditions : List Simple)
  /-- A link. -/
  | link (link : Link)
  /-- Blanks. -/
  | blank

/-- What may stand in the brackets of a condition. -/
structure Level where
  /-- Whether a selector that cannot be read is passed over. -/
  forgiving : Bool
  /-- Whether selectors begin with a link to the element that is asked. -/
  relative : Bool
  /-- Whether `has` may occur. -/
  allowsHas : Bool

/-- The top level. -/
def Level.top : Level := ⟨false, false, true⟩

/-- The number that an element has: the first, or the last. -/
def edge (fromEnd ofType : Bool) : Simple := .count ⟨0, 1, fromEnd, ofType⟩

/-- The conditions that a word after a colon stands for. -/
def word? (name : List Char) : Option (List Simple) :=
  match String.ofList (lower name) with
  | "first-child" => some [edge false false]
  | "last-child" => some [edge true false]
  | "only-child" => some [edge false false, edge true false]
  | "first-of-type" => some [edge false true]
  | "last-of-type" => some [edge true true]
  | "only-of-type" => some [edge false true, edge true true]
  | "root" => some [.root]
  | "empty" => some [.empty]
  | "scope" => some [.scope]
  | _ => none

/-- The condition that a word with arguments stands for. -/
def call? (level : Level) (read : Level → List Component → Option (List Selector))
    (name : List Char) (arguments : List Component) : Option Simple :=
  let count (fromEnd ofType : Bool) : Option Simple :=
    (counting? arguments).map fun f => .count ⟨f.1, f.2, fromEnd, ofType⟩
  match String.ofList (lower name) with
  | "nth-child" => count false false
  | "nth-last-child" => count true false
  | "nth-of-type" => count false true
  | "nth-last-of-type" => count true true
  | "is" | "where" => (read ⟨true, false, level.allowsHas⟩ arguments).map .isAny
  | "not" => (read ⟨false, false, level.allowsHas⟩ arguments).map .isNone
  | "has" =>
    if level.allowsHas then (read ⟨false, true, false⟩ arguments).map .has else none
  | _ => none

/-- The pieces that components say. -/
def pieces? (level : Level) (read : Level → List Component → Option (List Selector)) :
    List Component → Option (List Piece)
  | [] => some []
  | .token .blank :: r => (pieces? level read r).map (.blank :: ·)
  | .token (.sign '>') :: r => (pieces? level read r).map (.link .child :: ·)
  | .token (.sign '+') :: r => (pieces? level read r).map (.link .next :: ·)
  | .token (.sign '~') :: r => (pieces? level read r).map (.link .later :: ·)
  | .token (.name _) :: .token (.sign '|') :: _ => none
  | .token (.name n) :: r => (pieces? level read r).map (.type [.type n] :: ·)
  | .token (.sign '*') :: .token (.sign '|') :: .token (.sign '*') :: r =>
    (pieces? level read r).map (.type [.any] :: ·)
  | .token (.sign '*') :: .token (.sign '|') :: .token (.name n) :: r =>
    (pieces? level read r).map (.type [.type n] :: ·)
  | .token (.sign '*') :: .token (.sign '|') :: _ => none
  | .token (.sign '*') :: r => (pieces? level read r).map (.type [.any] :: ·)
  | .token (.sign '|') :: .token (.sign '*') :: r =>
    (pieces? level read r).map (.type [.noVocabulary] :: ·)
  | .token (.sign '|') :: .token (.name n) :: r =>
    (pieces? level read r).map (.type [.noVocabulary, .type n] :: ·)
  | .token (.sign '.') :: .token (.name c) :: r =>
    (pieces? level read r).map (.part [.ofClass c] :: ·)
  | .token (.hash true i) :: r => (pieces? level read r).map (.part [.id i] :: ·)
  | .block .square items :: r => do
    let test ← attributeTest? items
    return .part [.attribute test] :: (← pieces? level read r)
  | .token .colon :: .token (.name n) :: r => do
    let conditions ← word? n
    return .part conditions :: (← pieces? level read r)
  | .token .colon :: .function n arguments :: r => do
    let condition ← call? level read n arguments
    return .part [condition] :: (← pieces? level read r)
  | _ => none

/-! ### Chains -/

/-- How far a chain has been joined. -/
inductive Joint where
  /-- Conditions are expected after what has been joined. -/
  | before (left : Option (Selector × Link))
  /-- Some conditions have been read, the last ones first. -/
  | within (left : Option (Selector × Link)) (conditions : List Simple)
  /-- Blanks have been read after a selector. -/
  | after (left : Selector)

/-- A selector with conditions joined to it. -/
def join (left : Option (Selector × Link)) (conditions : List Simple) : Selector :=
  match left with
  | none => .alone conditions.reverse
  | some (s, link) => .linked s link conditions.reverse

/-- The joint after one more piece. -/
def Joint.next? (j : Joint) (p : Piece) : Option Joint :=
  match j, p with
  | .before left, .blank => some (.before left)
  | .before left, .type cs => some (.within left cs.reverse)
  | .before left, .part cs => some (.within left cs.reverse)
  | .before _, .link _ => none
  | .within left cs, .blank => some (.after (join left cs))
  | .within _ _, .type _ => none
  | .within left cs, .part more => some (.within left (more.reverse ++ cs))
  | .within left cs, .link l => some (.before (some (join left cs, l)))
  | .after s, .blank => some (.after s)
  | .after s, .type cs => some (.within (some (s, .descendant)) cs.reverse)
  | .after s, .part cs => some (.within (some (s, .descendant)) cs.reverse)
  | .after s, .link l => some (.before (some (s, l)))

/-- The selector that has been joined. -/
def Joint.selector? : Joint → Option Selector
  | .before _ => none
  | .within left cs => some (join left cs)
  | .after s => some s

/-- The pieces without the blanks that they begin with. -/
def dropBlanks : List Piece → List Piece
  | .blank :: r => dropBlanks r
  | s => s

/-- The selector that pieces make up. A relative one begins with a link to the element that is
asked; its elements are in that element if none is given. -/
def chain? (relative : Bool) (ps : List Piece) : Option Selector :=
  let anchor : Selector := .alone [.anchor]
  let start : Joint × List Piece :=
    if !relative then (.before none, ps)
    else
      match dropBlanks ps with
      | .link l :: r => (.before (some (anchor, l)), r)
      | r => (.before (some (anchor, .descendant)), r)
  (start.2.foldlM Joint.next? start.1).bind Joint.selector?

/-- The alternatives that components describe, with brackets down to a depth. -/
def readAlternatives : Nat → Level → List Component → Option (List Selector)
  | 0, _, _ => none
  | depth + 1, level, s =>
    (splitCommas s).mapM fun part =>
      match (pieces? level (readAlternatives depth) part).bind (chain? level.relative) with
      | some selector => some selector
      | none => if level.forgiving && allSound part then some (.alone [.never]) else none

/-- The alternatives that a text describes. Brackets are nowhere deeper than there are tokens. -/
def Selector.parse? (s : List Char) : Option (List Selector) :=
  let tokens := tokens s
  readAlternatives (tokens.length + 1) Level.top (components tokens)

end Metasearch.Css
