import Moorage.Text.Base64
import Moorage.Text.Cut

/-!
# `Moorage.Pem`: certificates and keys as text

A text holds any number of blocks, each between two lines that carry its label.
The bytes of a block are the DER form of what the label names.

* `Pem.blocks?`: the blocks of a text.
* `Der.isCertificate`, `Der.isPrivateKey`: whether bytes have the outer form of one.
-/

set_option autoImplicit false

namespace Moorage

/-- A block: what its label names and its bytes. -/
structure PemBlock where
  label : String
  contents : List UInt8
  deriving Repr, Inhabited

namespace Pem

/-- Whether a character stands between the digits of a block for the eye alone. -/
def isGap (c : Char) : Bool := c = ' ' || ('\t' ≤ c && c ≤ '\r')

/-- The lines in front of the bytes of a block, each a name and a value, and what
follows the empty line behind them. -/
def splitHead (body : List Char) : List Char × List Char :=
  match Text.cutAt "\n\n".toList body with
  | some parts => parts
  | none =>
      match Text.cutAt "\r\n\r\n".toList body with
      | some parts => parts
      | none => ([], body)

/-- The block between two lines. -/
def block? (start body end_ : List Char) : Option PemBlock :=
  let (head, data) := splitHead body
  if start.isEmpty || start ≠ end_ then none
  else if !(Text.lines (String.ofList head)).all (·.toList.contains ':') then none
  else
    (Text.Base64.decode? Text.Base64.standard
      (data.filter fun c => !isGap c)).map fun bytes =>
        { label := String.ofList start, contents := bytes }

/-- The blocks of a text. A block without an end and everything behind it say
nothing; a block that is complete has to be well formed. -/
def blocksOf : (fuel : Nat) → List Char → Option (List PemBlock)
  | 0, _ => some []
  | fuel + 1, text =>
      let parts : Option (List Char × List Char × List Char × List Char) := do
        let (_, rest) ← Text.cutAt "-----BEGIN ".toList text
        let (start, rest) ← Text.cutAt "-----".toList rest
        let (body, rest) ← Text.cutAt "-----END ".toList (rest.dropWhile isGap)
        let (end_, rest) ← Text.cutAt "-----".toList rest
        return (start, body, end_, rest)
      match parts with
      | none => some []
      | some (start, body, end_, rest) => do
          return (← block? start body end_) :: (← blocksOf fuel rest)

/-- The blocks of a text in bytes, none when one of them is malformed. -/
def blocks? (bytes : List UInt8) : Option (List PemBlock) :=
  blocksOf (bytes.length + 1) (bytes.map fun byte => Char.ofNat byte.toNat)

end Pem

namespace Der

/-- The tag and the contents of the first element of bytes, and the bytes behind
it. -/
def element? : List UInt8 → Option (UInt8 × List UInt8 × List UInt8)
  | tag :: length :: rest => do
      let (size, rest) ←
        if length < 0x80 then some (length.toNat, rest)
        else
          let width := (length - 0x80).toNat
          if width = 0 ∨ 2 < width ∨ rest.length < width then none
          else some ((rest.take width).foldl (fun n byte => 256 * n + byte.toNat) 0, rest.drop width)
      if rest.length < size then none else some (tag, rest.take size, rest.drop size)
  | _ => none

/-- The elements that bytes are made of. -/
def elements? : (fuel : Nat) → List UInt8 → Option (List (UInt8 × List UInt8))
  | _, [] => some []
  | 0, _ => none
  | fuel + 1, bytes => do
      let (tag, contents, rest) ← element? bytes
      return (tag, contents) :: (← elements? fuel rest)

/-- The elements of the sequence that bytes are. -/
def sequence? (bytes : List UInt8) : Option (List (UInt8 × List UInt8)) := do
  match ← elements? bytes.length bytes with
  | [(0x30, contents)] => elements? contents.length contents
  | _ => none

/-- Whether bytes are a certificate of the third version: what is signed, the
algorithm, which what is signed names as well, and the signature. -/
def isCertificate (bytes : List UInt8) : Bool :=
  match sequence? bytes with
  | some [(0x30, signed), (0x30, algorithm), (0x03, _)] =>
      match elements? signed.length signed with
      | some ((0xA0, version) :: (0x02, _) :: (0x30, named) :: (0x30, _) :: (0x30, _)
          :: (0x30, _) :: (0x30, _) :: rest) =>
          version = [0x02, 0x01, 0x02] && named = algorithm
            && (match rest with
              | [] | [(0xA3, _)] => true
              | _ => false)
      | _ => false
  | _ => false

/-- Whether bytes are a private key in any of its forms: a sequence that begins with
the number of its version. -/
def isPrivateKey (bytes : List UInt8) : Bool :=
  match sequence? bytes with
  | some ((0x02, _) :: _ :: _) => true
  | _ => false

end Der

end Moorage
