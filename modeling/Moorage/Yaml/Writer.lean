import Moorage.Decimal.Shortest
import Moorage.Text.Cut
import Moorage.Yaml.Value

/-!
# `Moorage.Yaml.Writer`: YAML data as text

Block maps and lists in the order of their entries, two columns to a level, the
hyphens of a list at the column of its key. A text is written plain where it then
reads back as the same text, else in single quotes, as a literal block when it
has lines, and in double quotes when nothing else can hold it. A key that is no
scalar, has lines or is too long stands behind a question mark, and its value
behind a colon on a line of its own.

* `Value.written`: the text of a value, with a line feed at its end.
* `Value.isWritable`: whether this way of writing can write a value.
-/

set_option autoImplicit false

namespace Moorage.Yaml

namespace Writer

/-- The characters that break lines. -/
def isBreak (c : Char) : Bool :=
  [0x0A, 0x0D, 0x85, 0x2028, 0x2029].contains c.toNat

/-- A blank, a break or the end of the text. -/
def endsWord (c : Option Char) : Bool :=
  match c with
  | none => true
  | some c => c = ' ' || c = '\t' || isBreak c

/-- Whether a character can stand for itself outside of double quotes. -/
def isShown (c : Char) : Bool :=
  let n := c.toNat
  n = 0x0A || (0x20 ≤ n && n ≤ 0x7E) || (0xA0 ≤ n && n < 0xFFFE && n ≠ 0xFEFF) || 0x10000 ≤ n

/-- Whether a character cannot begin a plain scalar. -/
def isOpening (c : Char) (next : Option Char) : Bool :=
  ['#', ',', '[', ']', '{', '}', '&', '*', '!', '|', '>', '\'', '"', '%', '@', '\x60'].contains c
    || ((c = '?' || c = ':' || c = '-') && endsWord next)

/-- Whether a character inside of a scalar ends a plain one in block context. -/
def isIndicator (previous : Option Char) (c : Char) (next : Option Char) : Bool :=
  (c = ':' && endsWord next) || (c = '#' && endsWord previous)

/-- Whether the characters after `previous` hold an indicator. -/
def holdsIndicator (previous : Option Char) : List Char → Bool
  | [] => false
  | c :: rest =>
      (match previous with
        | none => isOpening c rest.head?
        | some p => isIndicator (some p) c rest.head?)
      || holdsIndicator (some c) rest

/-- Whether one character is directly followed by another. -/
def holdsPair (first second : Char → Bool) : List Char → Bool
  | a :: b :: rest => (first a && second b) || holdsPair first second (b :: rest)
  | _ => false

/-- Whether a text can only be written in double quotes. -/
def needsEscapes (text : List Char) : Bool :=
  text.any (!isShown ·) || holdsPair (· = ' ') isBreak text

/-- Whether a text would be read as a document's mark. -/
def isMark (text : List Char) : Bool :=
  (Text.dropLead? "---".toList text).isSome || (Text.dropLead? "...".toList text).isSome

/-- Whether a text can be written plain in block context. -/
def isPlain (text : List Char) : Bool :=
  !needsEscapes text && !text.any isBreak && !isMark text && !holdsIndicator none text
    && text.head? ≠ some ' ' && text.getLast? ≠ some ' '

/-- Whether a text can be written in single quotes. -/
def isQuotable (text : List Char) : Bool :=
  !needsEscapes text && !holdsPair isBreak (· = ' ') text

/-- Whether a text can be written as a literal block. -/
def isBlock (text : List Char) : Bool :=
  !text.isEmpty && !needsEscapes text && text.getLast? ≠ some ' '

/-- Whether a plain text would be read as something other than text, or looks like
a number. -/
def isAmbiguous (text : String) : Bool :=
  Core.ofPlain text ≠ .text || Core.isZeroLed text.toList

/-- The text with the given columns left free behind each line break, and in front
where `afterBreak` says that one comes before. -/
def indented (column : Nat) : (afterBreak : Bool) → List Char → List Char
  | _, [] => []
  | afterBreak, c :: rest =>
      if isBreak c then c :: indented column true rest
      else
        (if afterBreak then List.replicate column ' ' else []) ++
          c :: indented column false rest

/-- A text in single quotes, which are written twice inside. -/
def singleQuoted (column : Nat) (text : List Char) : String :=
  let inside := text.flatMap fun c => if c = '\'' then ['\'', '\''] else [c]
  String.ofList ('\'' :: indented column false (inside ++ ['\'']))

/-- The digits of a number in base sixteen, at least `width` of them. -/
def hexadecimal (width n : Nat) : List Char :=
  let digits := (Nat.toDigits 16 n).map Char.toUpper
  List.replicate (width - digits.length) '0' ++ digits

/-- The characters that stand for one character inside of double quotes. -/
def escape (c : Char) : List Char :=
  if c = '"' then ['\\', '"']
  else if c = '\\' then ['\\', '\\']
  else if isShown c && !isBreak c then [c]
  else
    match [(0x00, '0'), (0x07, 'a'), (0x08, 'b'), (0x09, 't'), (0x0A, 'n'), (0x0B, 'v'),
        (0x0C, 'f'), (0x0D, 'r'), (0x1B, 'e'), (0x85, 'N'), (0xA0, '_'), (0x2028, 'L'),
        (0x2029, 'P')].find? (·.1 = c.toNat) with
    | some (_, letter) => ['\\', letter]
    | none =>
        if c.toNat < 0x100 then ['\\', 'x'] ++ hexadecimal 2 c.toNat
        else if c.toNat < 0x10000 then ['\\', 'u'] ++ hexadecimal 4 c.toNat
        else ['\\', 'U'] ++ hexadecimal 8 c.toNat

/-- A text in double quotes. -/
def doubleQuoted (text : List Char) : String :=
  String.ofList (['"'] ++ text.flatMap escape ++ ['"'])

/-- Blanks up to a column. -/
def blanks (column : Nat) : String := String.ofList (List.replicate column ' ')

/-- What the head of a literal block says: that its first line is indented, and
whether line feeds at its end are dropped or kept. -/
def blockHints (text : List Char) : String :=
  let lead := if text.head?.any (fun c => c = ' ' || isBreak c) then "2" else ""
  let tail :=
    match text.reverse with
    | c :: before =>
        if !isBreak c then "-"
        else if before.head?.all isBreak then "+"
        else ""
    | [] => "-"
  lead ++ tail

/-- A text as a literal block at a column. It ends a line if the text does. -/
def literal (column : Nat) (text : List Char) : String :=
  "|" ++ blockHints text ++ "\n" ++ String.ofList (indented column true text)

/-- A text as the value at a column. -/
def textValue (column : Nat) (text : String) : String :=
  let chars := text.toList
  if chars.contains '\n' then
    if isBlock chars then literal column chars else doubleQuoted chars
  else if isPlain chars && !isAmbiguous text then text
  else if isQuotable chars then singleQuoted column chars
  else doubleQuoted chars

/-- Whether a character of a tag stands for itself. -/
def isTagChar (c : Char) : Bool := c.isAlphanum || "-_;/?:@&=+$,.~*'()[]".toList.contains c

/-- A character of a tag as the bytes of its UTF-8 form, each behind a percent
sign. -/
def percentEncoded (c : Char) : List Char :=
  (String.singleton c).toUTF8.toList.flatMap fun byte => '%' :: hexadecimal 2 byte.toNat

/-- A tag without the mark that every tag has more than its name. -/
def bareTag (tag : String) : String :=
  let name := String.ofList (tag.toList.drop 1)
  if name.toList.head? = some '!' then name else "!" ++ name

/-- A tag as it is written. The mark alone is written as a whole tag in angle
brackets, so that it is not taken for the lead of another one. -/
def tagText (tag : String) : String :=
  let chars := (bareTag tag).toList
  let encoded (chars : List Char) : String :=
    String.ofList (chars.flatMap fun c => if isTagChar c then [c] else percentEncoded c)
  if chars.length = 1 then "!<" ++ encoded chars ++ ">" else "!" ++ encoded (chars.drop 1)

/-- A value that needs no lines of its own, without its tag, as it stands at a
column. -/
def scalar? (column : Nat) : Value → Option String
  | .null => some "null"
  | .boolean b => some (if b then "true" else "false")
  | .integer n => some (toString n)
  | .float x => some x.shortText
  | .text s => some (textValue column s)
  | .sequence [] => some "[]"
  | .mapping [] => some "\x7b\x7d"
  | _ => none

/-- The count of bytes of a value that needs no lines of its own. Brackets do not
count. -/
def size (value : Value) : Nat :=
  match value with
  | .text s => s.utf8ByteSize
  | .sequence _ | .mapping _ => 0
  | value => ((scalar? 0 value).getD "").utf8ByteSize

/-- The most bytes of a key with its tag in the line of its value. -/
def maxKeySize : Nat := 128

/-- A key in the line of its value, if it fits there. -/
def key? (tag : Option String) : Value → Option String
  | .tagged tag value => key? (some tag) value
  | value =>
      let hasLines := match value with
        | .text s => s.toList.any isBreak
        | _ => false
      let tagSize := (tag.map fun tag => (bareTag tag).utf8ByteSize).getD 0
      if hasLines || maxKeySize < tagSize + size value then none
      else
        (scalar? 0 value).map fun text =>
          ((tag.map fun tag => tagText tag ++ " ").getD "") ++ text

/-- Where a value stands: alone, behind the hyphen of an item, behind the mark of a
spread out key or of its value, or behind a key in the same line. -/
inductive Place where
  | root
  | item
  | mark
  | line
  deriving DecidableEq, Repr

/-- The text between what introduces a collection and its first entry, and the
column of its entries, inside of a collection at the given column. A tag sends the
first entry to a line of its own. -/
def opening (place : Place) (column : Nat) (isList : Bool) (tag : Option String) :
    String × Nat :=
  let isInline := tag.isNone && place ≠ .line
  let inner :=
    if place = .root then 0
    else if isList && !isInline && place ≠ .item then column
    else column + 2
  let blank := if place = .root then "" else " "
  let tagged := (tag.map fun tag => blank ++ tagText tag).getD ""
  (if isInline then blank else tagged ++ "\n" ++ blanks inner, inner)

/-- The line of a value that needs no lines of its own, from behind what introduces
it on. -/
def scalarLine (place : Place) (column : Nat) (tag : Option String) (value : Value) : String :=
  let text := (scalar? (column + 2) value).getD ""
  let words := (tag.map tagText).toList ++ [text]
  let lead := if place = .root then "" else " "
  let ending := if text.toList.getLast?.any isBreak then "" else "\n"
  lead ++ " ".intercalate words ++ ending

mutual

/-- The text of a value inside of a collection at a column, from behind what
introduces it to the end of its last line. -/
def node (place : Place) (column : Nat) (tag : Option String) : Value → String
  | .tagged tag value => node place column (some tag) value
  | .sequence (item :: items) =>
      let (lead, inner) := opening place column true tag
      lead ++ listItems inner (item :: items)
  | .mapping (entry :: entries) =>
      let (lead, inner) := opening place column false tag
      lead ++ mapEntries inner (entry :: entries)
  | value => scalarLine place column tag value

/-- The items of a list, the first of which stands where the line already is. -/
def listItems (column : Nat) : List Value → String
  | [] => ""
  | item :: [] => "-" ++ node .item column none item
  | item :: next :: rest =>
      "-" ++ node .item column none item ++ blanks column ++ listItems column (next :: rest)

/-- The entries of a map, the first of which stands where the line already is. -/
def mapEntries (column : Nat) : List (Value × Value) → String
  | [] => ""
  | entry :: [] => mapEntry column entry
  | entry :: next :: rest =>
      mapEntry column entry ++ blanks column ++ mapEntries column (next :: rest)

/-- One entry of a map. -/
def mapEntry (column : Nat) : Value × Value → String
  | (key, value) =>
      match key? none key with
      | some text => text ++ ":" ++ node .line column none value
      | none =>
          "?" ++ node .mark column none key ++ blanks column ++ ":" ++
            node .mark column none value

end

/-- Whether a value begins as a tag does: it is under a tag, or a map of one
entry. -/
def beginsLikeTag : Value → Bool
  | .tagged .. => true
  | .mapping [_] => true
  | _ => false

mutual

/-- Whether a value can be written. The only entry of a map without a tag is taken
for a tag at first, which leaves no room for a key that begins like one itself. -/
def canWrite (isTagged : Bool) : Value → Bool
  | .tagged _ value => canWrite true value
  | .sequence items => canWriteItems items
  | .mapping entries =>
      let isClear := match entries with
        | [entry] => isTagged || !beginsLikeTag entry.1
        | _ => true
      isClear && canWriteEntries entries
  | _ => true

/-- Whether the items of a list can be written. -/
def canWriteItems : List Value → Bool
  | [] => true
  | item :: rest => canWrite false item && canWriteItems rest

/-- Whether the entries of a map can be written. -/
def canWriteEntries : List (Value × Value) → Bool
  | [] => true
  | entry :: rest => canWriteEntry entry && canWriteEntries rest

/-- Whether a key and its value can be written. -/
def canWriteEntry : Value × Value → Bool
  | (key, value) => canWrite false key && canWrite false value

end

end Writer

/-- Whether a value can be written. -/
def Value.isWritable (value : Value) : Bool := Writer.canWrite false value

/-- The text of a value. -/
def Value.written (value : Value) : String := Writer.node .root 0 none value

end Moorage.Yaml
