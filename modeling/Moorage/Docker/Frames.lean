import Moorage.Text.Utf8

/-!
# `Moorage.Docker.Frames`: output of containers

The engine sends the output of a container as frames: a byte for the stream, three
zero bytes, the length in four bytes, and the output. Output that does not start
like a frame comes from a terminal and is taken as it is.
-/

set_option autoImplicit false

namespace Moorage.Docker

/-- Where output comes from. -/
inductive Stream where
  | stdin
  | stdout
  | stderr
  | terminal
  deriving DecidableEq, Repr

/-- A piece of output. -/
structure Frame where
  stream : Stream
  output : ByteArray

/-- The stream that a byte stands for. -/
def Stream.ofByte? (byte : UInt8) : Option Stream :=
  if byte = 0 then some .stdin
  else if byte = 1 then some .stdout
  else if byte = 2 then some .stderr
  else none

/-- The number of four bytes, the highest first. -/
def length4 (a b c d : UInt8) : Nat :=
  a.toNat * Nat.pow 2 24 + b.toNat * Nat.pow 2 16 + c.toNat * Nat.pow 2 8 + d.toNat

/-- The frames of some bytes; none if the last one is cut off. Every frame has a
byte, so that `limit` need not be more than the number of bytes. -/
def framesFrom (limit : Nat) (bytes : List UInt8) : Option (List Frame) :=
  match limit, bytes with
  | _, [] => some []
  | 0, _ => none
  | limit + 1, first :: rest =>
      match Stream.ofByte? first, rest with
      | none, _ => some [⟨.terminal, (first :: rest).toByteArray⟩]
      | some stream, _ :: _ :: _ :: a :: b :: c :: d :: rest =>
          let length := length4 a b c d
          if rest.length < length then none
          else
            (framesFrom limit (rest.drop length)).map
              (⟨stream, (rest.take length).toByteArray⟩ :: ·)
      | some _, _ => none

/-- The frames of a body. -/
def frames? (body : ByteArray) : Option (List Frame) := framesFrom body.size body.toList

/-- The text of a frame. -/
def Frame.text (f : Frame) : String := Text.Utf8.decodeLossy f.output

/-- The text of the frames of one stream. -/
def textOf (stream : Stream) (frames : List Frame) : String :=
  String.join ((frames.filter (·.stream = stream)).map Frame.text)

end Moorage.Docker
