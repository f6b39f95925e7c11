import Moorage.Text.Utf8

/-!
# `Moorage.Text.Encoding`: text in the encoding that its first bytes name

A byte order mark at the start of a text names the encoding and is no part of the
text. Without one the encoding is UTF-8.

* `decode`: the text of well-formed bytes.
-/

set_option autoImplicit false

namespace Moorage.Text.Encoding

/-- The units of sixteen bits that bytes are made of, the high byte first when
`bigEndian` holds. -/
def units (bigEndian : Bool) : List UInt8 → Option (List Nat)
  | [] => some []
  | [_] => none
  | a :: b :: rest => do
      let unit := if bigEndian then 256 * a.toNat + b.toNat else 256 * b.toNat + a.toNat
      return unit :: (← units bigEndian rest)

/-- The characters that units of sixteen bits stand for: a high and a low half make
one together. -/
def ofUnits : List Nat → Option (List Char)
  | [] => some []
  | unit :: rest =>
      if 0xDC00 ≤ unit ∧ unit ≤ 0xDFFF then none
      else if 0xD800 ≤ unit ∧ unit ≤ 0xDBFF then
        match rest with
        | low :: rest =>
            if 0xDC00 ≤ low ∧ low ≤ 0xDFFF then do
              let c := Char.ofNat (0x10000 + (unit - 0xD800) * 0x400 + (low - 0xDC00))
              return c :: (← ofUnits rest)
            else none
        | [] => none
      else do return Char.ofNat unit :: (← ofUnits rest)

/-- The text of well-formed bytes. -/
def decode (bytes : ByteArray) : Option String :=
  match bytes.toList with
  | 0xFF :: 0xFE :: rest => ((units false rest).bind ofUnits).map String.ofList
  | 0xFE :: 0xFF :: rest => ((units true rest).bind ofUnits).map String.ofList
  | 0xEF :: 0xBB :: 0xBF :: rest => (Utf8.decode ⟨rest.toArray⟩).toOption
  | _ => (Utf8.decode bytes).toOption

end Moorage.Text.Encoding
