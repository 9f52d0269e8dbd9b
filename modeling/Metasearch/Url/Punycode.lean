/-!
# Punycode

A label of any characters as one of ASCII: its ASCII characters, a hyphen, and the other
characters as a run of base-36 numbers. Each number tells how far to move on in the order of
(character, position) before the next insertion; the thresholds between digits adapt to the
numbers seen so far.

## Main definitions

* `threshold`, `adapt`: the variable-length numbers.
* `encode`, `decode?`.
-/

namespace Metasearch.Url.Punycode

/-- The digits `a` to `z` and `0` to `9`. -/
def digitChar (d : Nat) : Char :=
  if d < 26 then Char.ofNat (97 + d) else Char.ofNat (22 + d)

/-- The value of a digit of either case. -/
def digitValue? (c : Char) : Option Nat :=
  if 'a' ≤ c && c ≤ 'z' then some (c.toNat - 97)
  else if 'A' ≤ c && c ≤ 'Z' then some (c.toNat - 65)
  else if '0' ≤ c && c ≤ '9' then some (c.toNat - 22)
  else none

/-- The least digit at position `k` that does not end a number. -/
def threshold (k bias : Nat) : Nat :=
  if k ≤ bias then 1 else if bias + 26 ≤ k then 26 else k - bias

/-- No threshold is zero: the digit for zero always ends a number. -/
theorem threshold_pos (k bias : Nat) : 1 ≤ threshold k bias := by
  unfold threshold
  repeat' split
  all_goals omega

/-- No threshold is above 26: the digits from 26 on never end a number. -/
theorem threshold_le (k bias : Nat) : threshold k bias ≤ 26 := by
  unfold threshold
  repeat' split
  all_goals omega

/-- Divide by 35 until at most 455 is left, adding 36 to `k` each time. -/
def shrink (delta k : Nat) : Nat × Nat :=
  if 455 < delta then shrink (delta / 35) (k + 36) else (delta, k)
termination_by delta
decreasing_by omega

/-- The bias after a number, of a label that has `points` characters so far. -/
def adapt (delta points : Nat) (first : Bool) : Nat :=
  let start := if first then delta / 700 else delta / 2
  let (d, k) := shrink (start + start / points) 0
  k + 36 * d / (d + 38)

/-! ### Writing -/

/-- The digits of a number from position `k` on. -/
def digits (bias k q : Nat) : List Char :=
  let t := threshold k bias
  if q < t then [digitChar q]
  else digitChar (t + (q - t) % (36 - t)) :: digits bias (k + 36) ((q - t) / (36 - t))
termination_by q
decreasing_by
  have h₁ := threshold_pos k bias
  have h₂ := threshold_le k bias
  have h₃ : (q - threshold k bias) / (36 - threshold k bias) ≤ q - threshold k bias :=
    Nat.div_le_self _ _
  omega

/-- What is written so far. -/
structure Progress where
  /-- The digits of the numbers so far. -/
  output : List Char
  /-- How far the next insertion is away. -/
  delta : Nat
  /-- The bias of the next number. -/
  bias : Nat
  /-- How many characters are dealt with. -/
  handled : Nat

/-- Pass one character of the label while `n` is being inserted. -/
def passChar (basic n : Nat) (p : Progress) (c : Char) : Progress :=
  if c.toNat < n then { p with delta := p.delta + 1 }
  else if c.toNat = n then
    { output := p.output ++ digits p.bias 36 p.delta
      delta := 0
      bias := adapt p.delta (p.handled + 1) (p.handled == basic)
      handled := p.handled + 1 }
  else p

/-- Insert the characters `todo` in turn, the last of which was below `n`. -/
def insertAll (label : List Char) (basic : Nat) : List Nat → Nat → Progress → Progress
  | [], _, p => p
  | m :: rest, n, p =>
    let q := label.foldl (passChar basic m)
      { p with delta := p.delta + (m - n) * (p.handled + 1) }
    insertAll label basic rest (m + 1) { q with delta := q.delta + 1 }

/-- A sorted list with one more member, unless it is there already. -/
def insertSorted (x : Nat) : List Nat → List Nat
  | [] => [x]
  | y :: r => if x < y then x :: y :: r else if x = y then y :: r else y :: insertSorted x r

/-- The ASCII form of a label. -/
def encode (label : List Char) : List Char :=
  let basic := label.filter fun c => c.toNat < 0x80
  let others := (label.filter fun c => 0x80 ≤ c.toNat).foldl (fun l c => insertSorted c.toNat l) []
  let head := if basic.isEmpty then [] else basic ++ ['-']
  head ++ (insertAll label basic.length others 0x80 ⟨[], 0, 72, basic.length⟩).output

/-! ### Reading -/

/-- The number at the start of the digits, on top of `i`, and the digits after it. -/
def readNumber (bias k weight i : Nat) : List Char → Option (Nat × List Char)
  | [] => none
  | c :: r => do
    let d ← digitValue? c
    let t := threshold k bias
    let i' := i + d * weight
    if d < t then some (i', r) else readNumber bias (k + 36) (weight * (36 - t)) i' r

/-- Reading a number uses up some of the text. -/
theorem length_readNumber_lt {bias k weight i j : Nat} {s r : List Char}
    (h : readNumber bias k weight i s = some (j, r)) : r.length < s.length := by
  induction s generalizing k weight i with
  | nil => simp [readNumber] at h
  | cons c s ih =>
    rw [readNumber] at h
    cases hd : digitValue? c with
    | none => simp [hd] at h
    | some d =>
      simp only [hd, Option.bind_eq_bind, Option.bind_some] at h
      split at h
      · cases h
        simp
      · have := ih h
        simp
        omega

/-- Holds of the code points of characters. -/
def isScalar (n : Nat) : Bool :=
  n < 0xD800 || (0xE000 ≤ n && n < 0x110000)

/-- Insert a character for each number left. -/
def insertRead (output : List Char) (i n bias : Nat) (s : List Char) : Option (List Char) :=
  if s.isEmpty then some output
  else
    match _h : readNumber bias 36 1 i s with
    | none => none
    | some (j, r) =>
      let points := output.length + 1
      let m := n + j / points
      if isScalar m then
        insertRead (output.insertIdx (j % points) (Char.ofNat m)) (j % points + 1) m
          (adapt (j - i) points (i == 0)) r
      else none
termination_by s.length
decreasing_by exact length_readNumber_lt ‹_›

/-- The label of an ASCII form. -/
def decode? (s : List Char) : Option (List Char) :=
  let (tail, head) := (s.reverse.takeWhile (· != '-'), s.reverse.dropWhile (· != '-'))
  let basic := (head.drop 1).reverse
  if s.all fun c => c.toNat < 0x80 then insertRead basic 0 0x80 72 tail.reverse else none

end Metasearch.Url.Punycode
