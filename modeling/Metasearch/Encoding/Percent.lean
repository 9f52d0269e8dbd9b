import Metasearch.Number.Base
import Metasearch.Text.Utf8

/-!
# Percent encoding

A byte is written as `%` and two hexadecimal digits. Which characters are kept as they stand is
up to the place where the text goes.

## Main definitions

* `encode`: every character that is not kept becomes its UTF-8 bytes in percent form.
* `decode`: the bytes that a text denotes. A `%` without two hexadecimal digits stands for itself.
* `encodeTerm`, `decodeTerm?`: the strictest set, for a text inside one path segment or value.
-/

namespace Metasearch.Encoding.Percent

open Metasearch.Text Metasearch.Number

/-- A byte in percent form. -/
def encodeByte (b : UInt8) : List Char :=
  ['%', upperHexDigit (b.toNat / 16), upperHexDigit (b.toNat % 16)]

/-- A character in percent form, unless it is kept. -/
def encodeChar (keep : Char → Bool) (c : Char) : List Char :=
  if keep c then [c] else (String.utf8EncodeChar c).flatMap encodeByte

/-- A text in percent form; `keep` tells which characters stand for themselves. -/
def encode (keep : Char → Bool) (s : List Char) : List Char :=
  s.flatMap (encodeChar keep)

/-- The bytes that a text denotes. -/
def decode : List Char → List UInt8
  | '%' :: a :: b :: r =>
    match hexValue? a, hexValue? b with
    | some h, some l => UInt8.ofNat (h * 16 + l) :: decode r
    | _, _ => 0x25 :: decode (a :: b :: r)
  | c :: r => String.utf8EncodeChar c ++ decode r
  | [] => []

/-- ASCII letters, digits and `-`, `_`, `.`, `~`. -/
def isUnreserved (c : Char) : Bool :=
  c.isAlphanum || c == '-' || c == '_' || c == '.' || c == '~'

/-- A text in percent form that has none of the characters with a meaning in a URL. -/
def encodeTerm (s : List Char) : List Char :=
  encode isUnreserved s

/-- The text that `s` denotes, if its bytes are well formed. -/
def decodeTerm? (s : List Char) : Option (List Char) :=
  Utf8.decodeStrict? (decode s)

end Metasearch.Encoding.Percent
