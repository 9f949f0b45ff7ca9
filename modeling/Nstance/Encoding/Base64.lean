import Mathlib.Data.List.Basic
import Mathlib.Data.UInt

/-!
# Unpadded base64 for URLs

Three bytes are written as four digits of six bits, a rest of one or two bytes as two or
three digits. The decoder is the lenient one: it passes over line breaks and over the bits
of the last digit that no byte takes.
-/

namespace Nstance.Encoding.Base64

/-- The digits of base64 for URLs. -/
def alphabet : List Char :=
  "ABCDEFGHIJKLMNOPQRSTUVWXYZabcdefghijklmnopqrstuvwxyz0123456789-_".toList

/-- The digit for six bits. -/
def digit (sextet : Nat) : Char := alphabet.getD sextet 'A'

/-- The six bits of a digit. -/
def sextet (digit : Char) : Option Nat := alphabet.idxOf? digit

/-- Six bits each; the last group may be short. -/
def sextets : List UInt8 → List Nat
  | [] => []
  | [a] => [a.toNat / 4, a.toNat % 4 * 16]
  | [a, b] => [a.toNat / 4, a.toNat % 4 * 16 + b.toNat / 16, b.toNat % 16 * 4]
  | a :: b :: c :: rest =>
    a.toNat / 4 :: (a.toNat % 4 * 16 + b.toNat / 16) ::
      (b.toNat % 16 * 4 + c.toNat / 64) :: c.toNat % 64 :: sextets rest

/-- Without padding. -/
def encode (bytes : List UInt8) : List Char := (sextets bytes).map digit

/-- The bytes of some digits. A single digit is no byte. -/
def bytes : List Nat → Option (List UInt8)
  | [] => some []
  | [_] => none
  | [w, x] => some [.ofNat (w * 4 + x / 16)]
  | [w, x, y] => some [.ofNat (w * 4 + x / 16), .ofNat (x % 16 * 16 + y / 4)]
  | w :: x :: y :: z :: rest =>
    (bytes rest).map fun after =>
      .ofNat (w * 4 + x / 16) :: .ofNat (x % 16 * 16 + y / 4) :: .ofNat (y % 4 * 64 + z) :: after

/-- What a decoder skips. -/
def lineBreak (char : Char) : Bool := char = '\r' || char = '\n'

/-- Line breaks are dropped first. -/
def decode (text : List Char) : Option (List UInt8) :=
  ((text.filter fun char => !lineBreak char).mapM sextet).bind bytes

end Nstance.Encoding.Base64
