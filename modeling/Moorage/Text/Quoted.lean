import Moorage.Text.Unshown

/-!
# `Moorage.Text.Quoted`: text in double quotes

A message shows a text between double quotes, on one line: the quote and the
backslash are escaped, the usual controls have short escapes, and every other
character without a shape of its own is written by its code point.
-/

set_option autoImplicit false

namespace Moorage.Text

/-- A character inside double quotes. -/
def quotedChar (c : Char) : List Char :=
  match c with
  | '\x00' => ['\\', '0']
  | '\t' => ['\\', 't']
  | '\r' => ['\\', 'r']
  | '\n' => ['\\', 'n']
  | '"' => ['\\', '"']
  | '\\' => ['\\', '\\']
  | _ =>
      if isUnshown c then
        ['\\', 'u', '\x7b'] ++ Nat.toDigits 16 c.toNat ++ ['\x7d']
      else [c]

/-- The text between double quotes. -/
def quoted (text : String) : String :=
  String.ofList ('"' :: text.toList.flatMap quotedChar ++ ['"'])

end Moorage.Text
