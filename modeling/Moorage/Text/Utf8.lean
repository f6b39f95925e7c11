/-!
# `Moorage.Text.Utf8`: bytes as text

* `decode`: the text of well-formed bytes, or where they are malformed.
* `decodeLossy`: the text of any bytes, with the replacement character for every
  malformed part.
-/

set_option autoImplicit false

namespace Moorage.Text.Utf8

/-- What stands at the front of some bytes: a character and its length, a
malformed part and its length, or a part that the end of the bytes cuts off. -/
inductive Front where
  | character (c : Char) (length : Nat)
  | malformed (length : Nat)
  | cutOff
  deriving DecidableEq, Repr

/-- Whether a byte continues a character. -/
def continues (byte : UInt8) : Bool := 0x80 ≤ byte && byte < 0xC0

/-- The payload of a continuing byte. -/
def payload (byte : UInt8) : Nat := byte.toNat % 64

/-- The least and the greatest second byte that may follow a first byte of a
character with more than one byte, and the number of bytes of the character. -/
def lead? (byte : UInt8) : Option (UInt8 × UInt8 × Nat) :=
  if 0xC2 ≤ byte && byte ≤ 0xDF then some (0x80, 0xBF, 2)
  else if byte = 0xE0 then some (0xA0, 0xBF, 3)
  else if byte = 0xED then some (0x80, 0x9F, 3)
  else if 0xE1 ≤ byte && byte ≤ 0xEF then some (0x80, 0xBF, 3)
  else if byte = 0xF0 then some (0x90, 0xBF, 4)
  else if byte = 0xF4 then some (0x80, 0x8F, 4)
  else if 0xF1 ≤ byte && byte ≤ 0xF3 then some (0x80, 0xBF, 4)
  else none

/-- What stands at the front of the bytes `first :: rest`. -/
def front (first : UInt8) (rest : List UInt8) : Front :=
  if first < 0x80 then .character (Char.ofNat first.toNat) 1
  else
    match lead? first with
    | none => .malformed 1
    | some (low, high, length) =>
        match rest with
        | [] => .cutOff
        | second :: rest =>
            if !(low ≤ second && second ≤ high) then .malformed 1
            else if length = 2 then
              .character (Char.ofNat (first.toNat % 32 * 64 + payload second)) 2
            else
              match rest with
              | [] => .cutOff
              | third :: rest =>
                  if !continues third then .malformed 2
                  else if length = 3 then
                    .character
                      (Char.ofNat ((first.toNat % 16 * 64 + payload second) * 64 + payload third)) 3
                  else
                    match rest with
                    | [] => .cutOff
                    | fourth :: _ =>
                        if !continues fourth then .malformed 3
                        else
                          .character
                            (Char.ofNat
                              (((first.toNat % 8 * 64 + payload second) * 64 + payload third) * 64
                                + payload fourth)) 4

/-- Where bytes are malformed, and how. -/
inductive Fault where
  | malformed (length index : Nat)
  | cutOff (index : Nat)
  deriving DecidableEq, Repr

/-- The wording of a fault. -/
def Fault.message : Fault → String
  | .malformed length index => s!"invalid utf-8 sequence of {length} bytes from index {index}"
  | .cutOff index => s!"incomplete utf-8 byte sequence from index {index}"

/-- The characters of bytes from a position on. -/
def decodeFrom (index : Nat) : (skip : Nat) → List UInt8 → Except Fault (List Char)
  | _, [] => .ok []
  | skip + 1, _ :: rest => decodeFrom (index + 1) skip rest
  | 0, first :: rest =>
      match front first rest with
      | .character c length => (decodeFrom (index + 1) (length - 1) rest).map (c :: ·)
      | .malformed length => .error (.malformed length index)
      | .cutOff => .error (.cutOff index)

/-- The text of well-formed bytes. -/
def decode (bytes : ByteArray) : Except Fault String :=
  (decodeFrom 0 0 bytes.toList).map String.ofList

/-- The characters of bytes with every malformed part replaced. -/
def decodeLossyFrom : (skip : Nat) → List UInt8 → List Char
  | _, [] => []
  | skip + 1, _ :: rest => decodeLossyFrom skip rest
  | 0, first :: rest =>
      match front first rest with
      | .character c length => c :: decodeLossyFrom (length - 1) rest
      | .malformed length => '\uFFFD' :: decodeLossyFrom (length - 1) rest
      | .cutOff => ['\uFFFD']

/-- The text of any bytes. -/
def decodeLossy (bytes : ByteArray) : String := String.ofList (decodeLossyFrom 0 bytes.toList)

end Moorage.Text.Utf8
