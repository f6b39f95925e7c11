/-!
# `Moorage.Text.Base64`: bytes as text of sixty-four digits

Three bytes are four digits of six bits each. Equal signs fill up the last four
digits, and the bits that no byte needs are zero.

* `encode`: the digits of bytes.
* `decode?`: the bytes of digits, when they are written as `encode` writes them.
-/

set_option autoImplicit false

namespace Moorage.Text.Base64

/-- Sixty-four digits. -/
abbrev Alphabet := List Char

/-- The digits that both alphabets begin with. -/
def commonDigits : Alphabet :=
  "ABCDEFGHIJKLMNOPQRSTUVWXYZabcdefghijklmnopqrstuvwxyz0123456789".toList

/-- The digits of files. -/
def standard : Alphabet := commonDigits ++ ['+', '/']

/-- The digits that also stand for themselves in addresses and headers. -/
def forAddresses : Alphabet := commonDigits ++ ['-', '_']

/-- One digit for the last six bits of a number. -/
def digit (alphabet : Alphabet) (n : Nat) : Char := alphabet.getD (n % 64) 'A'

/-- The digits of bytes. -/
def encodeDigits (alphabet : Alphabet) : List UInt8 → List Char
  | [] => []
  | [a] =>
      let n := a.toNat * 65536
      [digit alphabet (n / 262144), digit alphabet (n / 4096), '=', '=']
  | [a, b] =>
      let n := a.toNat * 65536 + b.toNat * 256
      [digit alphabet (n / 262144), digit alphabet (n / 4096), digit alphabet (n / 64), '=']
  | a :: b :: c :: rest =>
      let n := a.toNat * 65536 + b.toNat * 256 + c.toNat
      [digit alphabet (n / 262144), digit alphabet (n / 4096), digit alphabet (n / 64),
        digit alphabet n] ++ encodeDigits alphabet rest

/-- Bytes as text. -/
def encode (alphabet : Alphabet) (bytes : List UInt8) : String :=
  String.ofList (encodeDigits alphabet bytes)

/-- The bytes of groups of four digits. Only the last group may be filled up. -/
def decodeDigits? (alphabet : Alphabet) : List Char → Option (List UInt8)
  | [] => some []
  | [a, b, '=', '='] => do
      let n := (← alphabet.idxOf? a) * 64 + (← alphabet.idxOf? b)
      if n % 16 = 0 then some [UInt8.ofNat (n / 16)] else none
  | [a, b, c, '='] => do
      let n := ((← alphabet.idxOf? a) * 64 + (← alphabet.idxOf? b)) * 64 + (← alphabet.idxOf? c)
      if n % 4 = 0 then some [UInt8.ofNat (n / 1024), UInt8.ofNat (n / 4)] else none
  | a :: b :: c :: d :: rest => do
      let high := (← alphabet.idxOf? a) * 64 + (← alphabet.idxOf? b)
      let n := (high * 64 + (← alphabet.idxOf? c)) * 64 + (← alphabet.idxOf? d)
      let bytes := [UInt8.ofNat (n / 65536), UInt8.ofNat (n / 256), UInt8.ofNat n]
      return bytes ++ (← decodeDigits? alphabet rest)
  | _ => none

/-- The bytes that a text writes. -/
def decode? (alphabet : Alphabet) (text : List Char) : Option (List UInt8) :=
  decodeDigits? alphabet text

end Moorage.Text.Base64
