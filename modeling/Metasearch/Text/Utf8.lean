/-!
# UTF-8

Bytes of a text and the text of bytes. Reading comes in two forms that share one step: the
lenient one writes U+FFFD for each maximal part that starts a character and cannot go on, the
strict one refuses.

## Main definitions

* `encode`: the bytes of a text.
* `readChar`: one character, or the refusal of one malformed part, and the bytes after it.
* `decodeLenient`, `decodeStrict?`.
-/

namespace Metasearch.Text.Utf8

/-- The bytes of a text. -/
def encode (s : List Char) : List UInt8 :=
  s.flatMap String.utf8EncodeChar

/-- Holds of a byte that continues a character. -/
def isContinuation (b : UInt8) : Bool :=
  0x80 ≤ b && b ≤ 0xBF

/-- The six bits that a continuation byte carries. -/
def payload (b : UInt8) : Nat :=
  b.toNat % 64

/-- The least second byte after a first byte: it shuts out overlong forms. -/
def secondMin (b : UInt8) : UInt8 :=
  if b = 0xE0 then 0xA0 else if b = 0xF0 then 0x90 else 0x80

/-- The greatest second byte after a first byte: it shuts out surrogates and code points past
U+10FFFF. -/
def secondMax (b : UInt8) : UInt8 :=
  if b = 0xED then 0x9F else if b = 0xF4 then 0x8F else 0xBF

/-- Read the character whose first byte is `b`. `none` stands for a malformed part; what is
left is all after it. -/
def readChar (b : UInt8) (rest : List UInt8) : Option Char × List UInt8 :=
  if b < 0x80 then (some (Char.ofNat b.toNat), rest)
  else if b < 0xC2 || 0xF4 < b then (none, rest)
  else
    match rest with
    | [] => (none, [])
    | b₂ :: rest₂ =>
      if !(secondMin b ≤ b₂ && b₂ ≤ secondMax b) then (none, rest)
      else if b < 0xE0 then
        (some (Char.ofNat (b.toNat % 32 * 64 + payload b₂)), rest₂)
      else
        match rest₂ with
        | [] => (none, [])
        | b₃ :: rest₃ =>
          if !isContinuation b₃ then (none, rest₂)
          else if b < 0xF0 then
            (some (Char.ofNat ((b.toNat % 16 * 64 + payload b₂) * 64 + payload b₃)), rest₃)
          else
            match rest₃ with
            | [] => (none, [])
            | b₄ :: rest₄ =>
              if !isContinuation b₄ then (none, rest₃)
              else
                (some (Char.ofNat
                  (((b.toNat % 8 * 64 + payload b₂) * 64 + payload b₃) * 64 + payload b₄)),
                  rest₄)

/-- Reading a character leaves no more bytes than there were. -/
theorem length_readChar_le (b : UInt8) (rest : List UInt8) :
    (readChar b rest).2.length ≤ rest.length := by
  unfold readChar
  repeat' split
  all_goals simp only [List.length_cons, List.length_nil]
  all_goals omega

/-- The text of bytes, with U+FFFD for every malformed part. -/
def decodeLenient : List UInt8 → List Char
  | [] => []
  | b :: rest => (readChar b rest).1.getD '\uFFFD' :: decodeLenient (readChar b rest).2
termination_by s => s.length
decreasing_by
  have := length_readChar_le b rest
  simp
  omega

/-- The text of bytes, if they are well formed. -/
def decodeStrict? : List UInt8 → Option (List Char)
  | [] => some []
  | b :: rest =>
    match (readChar b rest).1 with
    | none => none
    | some c => (decodeStrict? (readChar b rest).2).map (c :: ·)
termination_by s => s.length
decreasing_by
  have := length_readChar_le b rest
  simp
  omega

end Metasearch.Text.Utf8
