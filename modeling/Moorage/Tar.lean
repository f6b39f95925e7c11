import Moorage.Text.Utf8

/-!
# `Moorage.Tar`: tar archives

An archive is a row of entries: a header of one block, and the contents in as many
blocks as they need.

* `Tar.firstFile?`: the contents of the first regular file of an archive.
-/

set_option autoImplicit false

namespace Moorage.Tar

/-- The size of a block. -/
def block : Nat := 512

/-- The value of octal digits, up to the first that is none. -/
def octalDigits (value : Nat) : List UInt8 → Option Nat
  | [] => some value
  | b :: rest => if 48 ≤ b ∧ b ≤ 55 then octalDigits (8 * value + (b.toNat - 48)) rest else none

/-- The number of a header's field: octal digits between blanks, ended by a zero
byte, or, when the first bit is set, a binary number. -/
def number? (field : List UInt8) : Option Nat :=
  match field with
  | [] => none
  | first :: rest =>
      if 128 ≤ first then
        some (rest.foldl (fun value b => 256 * value + b.toNat) (first.toNat - 128))
      else
        let digits := (field.takeWhile (· ≠ 0)).dropWhile (· = 32)
        let digits := (digits.reverse.dropWhile (· = 32)).reverse
        if digits.isEmpty then none else octalDigits 0 digits

/-- Some bytes of an archive. -/
def slice (archive : ByteArray) (start length : Nat) : List UInt8 :=
  (archive.extract start (start + length)).toList

/-- The checksum of a header: the sum of its bytes, with blanks in place of the
checksum itself. -/
def checksum (header : List UInt8) : Nat :=
  ((header.take 148 ++ header.drop 156).foldl (fun sum b => sum + b.toNat) 0) + 8 * 32

/-- Whether a header announces a regular file. -/
def announcesFile (header : List UInt8) : Bool := header[156]? = some 0 || header[156]? = some 48

/-- A number of bytes in whole blocks. -/
def rounded (size : Nat) : Nat := (size + block - 1) / block * block

/-- The first regular file from a position on, if there is one; nothing if the
bytes there are no archive. Every entry takes a block, so that `limit` need not
be more than the number of blocks. -/
def fileFrom (archive : ByteArray) (limit position : Nat) : Option (Option ByteArray) :=
  match limit with
  | 0 => some none
  | limit + 1 =>
      let header := slice archive position block
      if header.isEmpty && position = archive.size then some none
      else if header.length < block then none
      else if header.all (· = 0) then some none
      else if number? ((header.drop 148).take 8) ≠ some (checksum header) then none
      else
        match number? ((header.drop 124).take 12) with
        | none => none
        | some size =>
            let start := position + block
            if announcesFile header then some (some (archive.extract start (start + size)))
            else fileFrom archive limit (start + rounded size)

/-- The contents of the first regular file of an archive, if it has one; nothing
if the bytes are no archive. -/
def firstFile? (archive : ByteArray) : Option (Option ByteArray) :=
  fileFrom archive (archive.size / block + 1) 0

end Moorage.Tar
