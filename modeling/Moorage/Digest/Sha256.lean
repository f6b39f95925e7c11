/-!
# `Moorage.Digest.Sha256`: the SHA-256 digest

* `padded`: a message filled up to whole blocks of sixteen words.
* `compress`: what one block does to the state of eight words.
* `hex`: the digest of a message as lower-case hexadecimal text.
-/

set_option autoImplicit false

namespace Moorage.Digest.Sha256

/-- The round constants: the fractions of the cube roots of the first sixty-four
primes. -/
def roundConstants : Array UInt32 := #[
  0x428a2f98, 0x71374491, 0xb5c0fbcf, 0xe9b5dba5, 0x3956c25b, 0x59f111f1, 0x923f82a4,
  0xab1c5ed5, 0xd807aa98, 0x12835b01, 0x243185be, 0x550c7dc3, 0x72be5d74, 0x80deb1fe,
  0x9bdc06a7, 0xc19bf174, 0xe49b69c1, 0xefbe4786, 0x0fc19dc6, 0x240ca1cc, 0x2de92c6f,
  0x4a7484aa, 0x5cb0a9dc, 0x76f988da, 0x983e5152, 0xa831c66d, 0xb00327c8, 0xbf597fc7,
  0xc6e00bf3, 0xd5a79147, 0x06ca6351, 0x14292967, 0x27b70a85, 0x2e1b2138, 0x4d2c6dfc,
  0x53380d13, 0x650a7354, 0x766a0abb, 0x81c2c92e, 0x92722c85, 0xa2bfe8a1, 0xa81a664b,
  0xc24b8b70, 0xc76c51a3, 0xd192e819, 0xd6990624, 0xf40e3585, 0x106aa070, 0x19a4c116,
  0x1e376c08, 0x2748774c, 0x34b0bcb5, 0x391c0cb3, 0x4ed8aa4a, 0x5b9cca4f, 0x682e6ff3,
  0x748f82ee, 0x78a5636f, 0x84c87814, 0x8cc70208, 0x90befffa, 0xa4506ceb, 0xbef9a3f7,
  0xc67178f2]

/-- The eight words that a digest is worked out in. -/
structure State where
  a : UInt32
  b : UInt32
  c : UInt32
  d : UInt32
  e : UInt32
  f : UInt32
  g : UInt32
  h : UInt32
  deriving DecidableEq, Repr

/-- The state before the first block: the fractions of the square roots of the
first eight primes. -/
def initial : State where
  a := 0x6a09e667
  b := 0xbb67ae85
  c := 0x3c6ef372
  d := 0xa54ff53a
  e := 0x510e527f
  f := 0x9b05688c
  g := 0x1f83d9ab
  h := 0x5be0cd19

/-- The word rotated to the right. -/
def rotated (word amount : UInt32) : UInt32 := (word >>> amount) ||| (word <<< (32 - amount))

/-- The words of the message schedule after the ones already there. -/
def schedule : (count : Nat) → Array UInt32 → Array UInt32
  | 0, words => words
  | count + 1, words =>
      let word (back : Nat) := words.getD (words.size - back) 0
      let s0 := rotated (word 15) 7 ^^^ rotated (word 15) 18 ^^^ (word 15 >>> 3)
      let s1 := rotated (word 2) 17 ^^^ rotated (word 2) 19 ^^^ (word 2 >>> 10)
      schedule count (words.push (word 16 + s0 + word 7 + s1))

/-- One round: the word of the schedule and the round constant go in. -/
def round (s : State) (word constant : UInt32) : State :=
  let s1 := rotated s.e 6 ^^^ rotated s.e 11 ^^^ rotated s.e 25
  let choice := (s.e &&& s.f) ^^^ (~~~s.e &&& s.g)
  let t1 := s.h + s1 + choice + constant + word
  let s0 := rotated s.a 2 ^^^ rotated s.a 13 ^^^ rotated s.a 22
  let majority := (s.a &&& s.b) ^^^ (s.a &&& s.c) ^^^ (s.b &&& s.c)
  { a := t1 + s0 + majority, b := s.a, c := s.b, d := s.c,
    e := s.d + t1, f := s.e, g := s.f, h := s.g }

/-- The state after one block of sixteen words. -/
def compress (s : State) (block : Array UInt32) : State :=
  let words := schedule 48 block
  let t := (words.zip roundConstants).foldl (fun t pair => round t pair.1 pair.2) s
  { a := s.a + t.a, b := s.b + t.b, c := s.c + t.c, d := s.d + t.d,
    e := s.e + t.e, f := s.f + t.f, g := s.g + t.g, h := s.h + t.h }

/-- A number as bytes, the most significant first. -/
def bigEndian (value : Nat) : (count : Nat) → List UInt8
  | 0 => []
  | count + 1 => UInt8.ofNat (value >>> (8 * count)) :: bigEndian value count

/-- The message with a one bit, zeros and its length in bits behind it, so that
whole blocks of sixty-four bytes come out. -/
def padded (message : List UInt8) : List UInt8 :=
  let zeros := (119 - message.length % 64) % 64
  message ++ [0x80] ++ List.replicate zeros 0 ++ bigEndian (8 * message.length) 8

/-- The words of bytes, four to a word. -/
def words : List UInt8 → List UInt32
  | a :: b :: c :: d :: rest =>
      (a.toUInt32 <<< 24 ||| b.toUInt32 <<< 16 ||| c.toUInt32 <<< 8 ||| d.toUInt32) :: words rest
  | _ => []

/-- The state after the blocks of a message, at most `count` of them. -/
def digestFrom (s : State) : (count : Nat) → List UInt32 → State
  | 0, _ => s
  | count + 1, message =>
      if message.isEmpty then s
      else digestFrom (compress s (message.take 16).toArray) count (message.drop 16)

/-- The digest of a message. -/
def digest (message : List UInt8) : List UInt8 :=
  let blocks := words (padded message)
  let s := digestFrom initial blocks.length blocks
  [s.a, s.b, s.c, s.d, s.e, s.f, s.g, s.h].flatMap fun word => bigEndian word.toNat 4

/-- The two hexadecimal digits of a byte. -/
def byteHex (byte : UInt8) : List Char :=
  [Nat.digitChar (byte.toNat / 16), Nat.digitChar (byte.toNat % 16)]

/-- The digest of a message as hexadecimal text. -/
def hex (message : List UInt8) : String := String.ofList ((digest message).flatMap byteHex)

end Moorage.Digest.Sha256
