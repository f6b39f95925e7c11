import Moorage.Yaml.Fault

/-!
# `Moorage.Yaml.Cursor`: a position in a YAML text

The character classes of YAML 1.2 and a cursor that counts lines and columns as
it moves. A line ends at a line feed, a carriage return with or without a line
feed after it, a next-line character, or one of the two Unicode separators.
-/

set_option autoImplicit false

namespace Moorage.Yaml

/-- A space or a tab. -/
def isBlank (c : Char) : Bool := c = ' ' || c = '\t'

/-- A character that ends a line. -/
def isBreak (c : Char) : Bool :=
  c = '\n' || c = '\r' || c.toNat = 0x85 || c.toNat = 0x2028 || c.toNat = 0x2029

/-- A blank or a line break. -/
def isSpace (c : Char) : Bool := isBlank c || isBreak c

/-- Whether the text is at its end, at a blank or at a line break. -/
def atSpace : List Char → Bool
  | [] => true
  | c :: _ => isSpace c

/-- Whether the text is at its end or at a line break. -/
def atLineEnd : List Char → Bool
  | [] => true
  | c :: _ => isBreak c

/-- A character of anchors, tag handles and directive names. -/
def isWordChar (c : Char) : Bool := c.isAlphanum || c = '_' || c = '-'

/-- A character that a YAML text may hold. -/
def isAllowed (c : Char) : Bool :=
  let n := c.toNat
  n = 0x9 || n = 0xa || n = 0xd || (0x20 ≤ n && n ≤ 0x7e) || n = 0x85
    || (0xa0 ≤ n && n ≤ 0xd7ff) || (0xe000 ≤ n && n ≤ 0xfffd) || 0x10000 ≤ n

/-- A position in a text: what is still to be read, how many bytes of UTF-8 lie
before it, and its line and column, which count characters. -/
structure Cursor where
  rest : List Char
  index : Nat := 0
  line : Nat := 0
  column : Nat := 0
  deriving Repr, Inhabited

namespace Cursor

/-- The next character. -/
def peek? (c : Cursor) : Option Char := c.rest.head?

/-- Whether the next character is `x`. -/
def at_ (c : Cursor) (x : Char) : Bool := c.rest.head? = some x

/-- The count of bytes in the UTF-8 form of characters. -/
def byteCount (chars : List Char) : Nat := chars.foldl (fun n c => n + c.utf8Size) 0

/-- The position `n` characters further in the same line. -/
def skip (c : Cursor) (n : Nat) : Cursor :=
  { c with
    rest := c.rest.drop n, index := c.index + byteCount (c.rest.take n), column := c.column + n }

/-- The position after the line break that comes next, if one does, together
with the text of the break: a line feed for every break but the two Unicode
separators, which stand for themselves. -/
def takeBreak (c : Cursor) : List Char × Cursor :=
  match c.rest with
  | '\r' :: '\n' :: rest =>
      (['\n'], { rest := rest, index := c.index + 2, line := c.line + 1, column := 0 })
  | x :: rest =>
      if isBreak x then
        let text := if x.toNat = 0x2028 || x.toNat = 0x2029 then [x] else ['\n']
        (text,
          { rest := rest, index := c.index + x.utf8Size, line := c.line + 1, column := 0 })
      else ([], c)
  | [] => ([], c)

/-- The characters of the class that come next, none of which may be a line
break, and the position after them. -/
def span (c : Cursor) (class_ : Char → Bool) : List Char × Cursor :=
  let taken := c.rest.takeWhile class_
  (taken, c.skip taken.length)

/-- The position after the blanks that come next. -/
def skipBlanks (c : Cursor) : Cursor := (c.span isBlank).2

/-- The position after a byte order mark that starts a line. It takes up a
column. -/
def skipByteOrderMark (c : Cursor) : Cursor :=
  if c.column = 0 && c.at_ (Char.ofNat 0xfeff) then c.skip 1 else c

/-- The position at the end of the line if a comment comes next. -/
def skipComment (c : Cursor) : Cursor :=
  if c.at_ '#' then (c.span fun x => !isBreak x).2 else c

/-- Whether three equal marks of a document boundary stand at the start of a
line. -/
def atBoundary (c : Cursor) (mark : Char) : Bool :=
  c.column = 0 &&
    match c.rest with
    | x :: y :: z :: rest => x = mark && y = mark && z = mark && atSpace rest
    | _ => false

/-- Whether a document ends or starts here. -/
def atAnyBoundary (c : Cursor) : Bool := c.atBoundary '-' || c.atBoundary '.'

end Cursor

end Moorage.Yaml
