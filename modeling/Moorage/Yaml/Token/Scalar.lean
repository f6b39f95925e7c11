import Moorage.Yaml.Cursor
import Moorage.Yaml.Token

/-!
# `Moorage.Yaml.Token.Scalar`: reading the text of a scalar

Plain, quoted and block scalars. Line breaks inside of plain and quoted scalars
fold: one break becomes a space, of several the first is dropped.
-/

set_option autoImplicit false

namespace Moorage.Yaml

/-- The blanks and breaks between two chunks of a folding scalar: the blanks of
the line, whether the line was broken, the first break and the ones after it. -/
structure Gap where
  blanks : List Char := []
  broken : Bool := false
  first : List Char := []
  more : List Char := []
  deriving Repr, Inhabited

/-- What a gap contributes to the scalar. -/
def Gap.text (g : Gap) : List Char :=
  if g.broken then
    if g.first = ['\n'] then (if g.more.isEmpty then [' '] else g.more)
    else g.first ++ g.more
  else g.blanks

/-- The gap that begins at the cursor. `tabLimit` is the column from which tabs
may indent a continued line, where there is such a rule. -/
def scanGap (tabLimit : Option Int) : (fuel : Nat) → Gap → Cursor → Except Fault (Gap × Cursor)
  | 0, gap, c => .ok (gap, c)
  | fuel + 1, gap, c =>
      match c.peek? with
      | none => .ok (gap, c)
      | some x =>
          if isBlank x then
            if gap.broken && x = '\t' && tabLimit.any (fun limit => decide ((c.column : Int) < limit))
            then .error (.malformed "a tab violates the indentation of a scalar")
            else
              let gap := if gap.broken then gap else { gap with blanks := gap.blanks ++ [x] }
              scanGap tabLimit fuel gap (c.skip 1)
          else if isBreak x then
            let (text, next) := c.takeBreak
            let gap :=
              if gap.broken then { gap with more := gap.more ++ text }
              else { gap with blanks := [], broken := true, first := text }
            scanGap tabLimit fuel gap next
          else .ok (gap, c)

/-- The characters of a plain scalar up to a blank, a break or an indicator that
ends it. -/
def plainChunk (inFlow : Bool) : List Char → Except Fault (List Char)
  | [] => .ok []
  | x :: rest =>
      if isSpace x then .ok []
      else if inFlow && x = ':' && rest.head?.any (",?[]\x7b\x7d".toList.contains ·) then
        .error (.malformed "a colon before an indicator in a plain scalar")
      else if (x = ':' && atSpace rest) || (inFlow && ",[]\x7b\x7d".toList.contains x) then .ok []
      else (plainChunk inFlow rest).map (x :: ·)

/-- A plain scalar: its text, whether it ended after a line break, and the
position after it. `indent` is the least column of a continued line. -/
def scanPlain (inFlow : Bool) (indent : Int) :
    (fuel : Nat) → List Char → Gap → Cursor → Except Fault (List Char × Bool × Cursor)
  | 0, text, gap, c => .ok (text, gap.broken, c)
  | fuel + 1, text, gap, c =>
      if c.atAnyBoundary || c.at_ '#' then .ok (text, gap.broken, c)
      else do
        let chunk ← plainChunk inFlow c.rest
        let (text, gap) := if chunk.isEmpty then (text, gap) else (text ++ gap.text ++ chunk, {})
        let c := c.skip chunk.length
        if c.peek?.any isSpace then
          let (gap, c) ← scanGap (some indent) c.rest.length gap c
          if !inFlow && decide ((c.column : Int) < indent) then .ok (text, gap.broken, c)
          else scanPlain inFlow indent fuel text gap c
        else .ok (text, gap.broken, c)

/-- The value of a hexadecimal digit. -/
def hexValue? (c : Char) : Option Nat :=
  if '0' ≤ c ∧ c ≤ '9' then some (c.toNat - 48)
  else if 'a' ≤ c ∧ c ≤ 'f' then some (c.toNat - 87)
  else if 'A' ≤ c ∧ c ≤ 'F' then some (c.toNat - 55)
  else none

/-- The value of hexadecimal digits. -/
def hexNumber? (digits : List Char) : Option Nat :=
  digits.foldlM (fun value c => (hexValue? c).map (16 * value + ·)) 0

/-- The character with a code point, which must not be a surrogate. -/
def charOf? (n : Nat) : Option Char :=
  if n < 0xd800 ∨ (0xdfff < n ∧ n ≤ 0x10ffff) then some (Char.ofNat n) else none

/-- The character of a short escape. -/
def shortEscape? : Char → Option Char
  | '0' => some '\x00'
  | 'a' => some '\x07'
  | 'b' => some '\x08'
  | 't' => some '\t'
  | '\t' => some '\t'
  | 'n' => some '\n'
  | 'v' => some '\x0b'
  | 'f' => some '\x0c'
  | 'r' => some '\r'
  | 'e' => some '\x1b'
  | ' ' => some ' '
  | '"' => some '"'
  | '/' => some '/'
  | '\\' => some '\\'
  | 'N' => some (Char.ofNat 0x85)
  | '_' => some (Char.ofNat 0xa0)
  | 'L' => some (Char.ofNat 0x2028)
  | 'P' => some (Char.ofNat 0x2029)
  | _ => none

/-- The number of hexadecimal digits after the letter of a long escape. -/
def longEscape? : Char → Option Nat
  | 'x' => some 2
  | 'u' => some 4
  | 'U' => some 8
  | _ => none

/-- The character that the escape after a backslash stands for, and the count of
characters after the backslash that write it. -/
def escape? : List Char → Option (Char × Nat)
  | [] => none
  | x :: rest =>
      match shortEscape? x with
      | some c => some (c, 1)
      | none => do
          let width ← longEscape? x
          let digits := rest.take width
          if digits.length < width then none
          let c ← charOf? (← hexNumber? digits)
          some (c, width + 1)

/-- The chunk of a quoted scalar up to a blank, a break or the closing quote, and
whether an escaped line break ended it. `text` is the chunk so far, its last
character first. -/
def quotedChunk (quote : Char) :
    (fuel : Nat) → List Char → Cursor → Except Fault (List Char × Bool × Cursor)
  | 0, text, c => .ok (text.reverse, false, c)
  | fuel + 1, text, c =>
      match c.rest with
      | [] => .ok (text.reverse, false, c)
      | x :: rest =>
          if isSpace x then .ok (text.reverse, false, c)
          else if quote = '\'' && x = '\'' && rest.head? = some '\'' then
            quotedChunk quote fuel ('\'' :: text) (c.skip 2)
          else if x = quote then .ok (text.reverse, false, c)
          else if quote = '"' && x = '\\' then
            if rest.head?.any isBreak then .ok (text.reverse, true, (c.skip 1).takeBreak.2)
            else
              match escape? rest with
              | none => .error (.malformed "unknown escape")
              | some (y, width) => quotedChunk quote fuel (y :: text) (c.skip (width + 1))
          else quotedChunk quote fuel (x :: text) (c.skip 1)

/-- A quoted scalar after its opening quote. -/
def scanQuoted (quote : Char) :
    (fuel : Nat) → List Char → Cursor → Except Fault (List Char × Cursor)
  | 0, _, _ => .error (.malformed "unterminated quoted scalar")
  | fuel + 1, text, c =>
      if c.atAnyBoundary then .error (.malformed "a document boundary in a quoted scalar")
      else if c.rest.isEmpty then .error (.malformed "unterminated quoted scalar")
      else do
        let (chunk, escaped, c) ← quotedChunk quote c.rest.length [] c
        let text := text ++ chunk
        if c.at_ quote then .ok (text, c.skip 1)
        else
          let (gap, c) ← scanGap none c.rest.length { broken := escaped } c
          scanQuoted quote fuel (text ++ gap.text) c

/-- How the breaks at the end of a block scalar are treated: `strip` drops all,
`clip` keeps one, `keep` keeps all. -/
inductive Chomping where
  | strip
  | clip
  | keep
  deriving DecidableEq, Repr

/-- The empty lines before a line of a block scalar: their breaks, the widest
column met, and the position of the line. An `indent` of zero is not known yet. -/
def scanBlockBreaks (indent : Int) :
    (fuel : Nat) → List Char → Nat → Cursor → Except Fault (List Char × Nat × Cursor)
  | 0, breaks, widest, c => .ok (breaks, widest, c)
  | fuel + 1, breaks, widest, c =>
      let spaces := (c.rest.takeWhile (· = ' ')).length
      let spaces := if indent = 0 then spaces else min spaces (indent - c.column).toNat
      let c := c.skip spaces
      let widest := max widest c.column
      if (indent = 0 || decide ((c.column : Int) < indent)) && c.at_ '\t' then
        .error (.malformed "a tab where a block scalar is indented")
      else if c.peek?.any isBreak then
        let (text, next) := c.takeBreak
        scanBlockBreaks indent fuel (breaks ++ text) widest next
      else .ok (breaks, widest, c)

/-- The lines of a block scalar from the cursor on, which stands at the first
column of a line. `firstBreak` and `breaks` are the line breaks before it, and
`afterBlank` says whether the line before it began with a blank. -/
def scanBlockLines (isLiteral : Bool) (chomping : Chomping) (indent : Int) :
    (fuel : Nat) → (text firstBreak breaks : List Char) → (afterBlank : Bool) → Cursor →
      Except Fault (List Char × Cursor)
  | 0, text, _, _, _, c => .ok (text, c)
  | fuel + 1, text, firstBreak, breaks, afterBlank, c =>
      if (c.column : Int) = indent && !c.rest.isEmpty then do
        let startsBlank := c.peek?.any isBlank
        let lead :=
          if !isLiteral && firstBreak = ['\n'] && !afterBlank && !startsBlank then
            (if breaks.isEmpty then [' '] else breaks)
          else firstBreak ++ breaks
        let (line, c) := c.span fun x => !isBreak x
        let (firstBreak, c) := c.takeBreak
        let (breaks, _, c) ← scanBlockBreaks indent c.rest.length [] 0 c
        scanBlockLines isLiteral chomping indent fuel (text ++ lead ++ line) firstBreak breaks
          startsBlank c
      else
        .ok (match chomping with
          | .strip => text
          | .clip => text ++ firstBreak
          | .keep => text ++ firstBreak ++ breaks, c)

/-- The chomping that an indicator asks for. -/
def chompingOf? : Char → Option Chomping
  | '+' => some .keep
  | '-' => some .strip
  | _ => none

/-- The header of a block scalar: chomping and indentation indicator, in either
order, and the position after them. A zero is no indentation indicator. -/
def scanBlockHeader (c : Cursor) : Except Fault (Chomping × Option Nat × Cursor) :=
  let width (c : Cursor) : Except Fault (Option Nat × Cursor) :=
    match c.peek? with
    | some x =>
        if x = '0' then .error (.malformed "an indentation indicator of zero")
        else if x.isDigit then .ok (some (x.toNat - 48), c.skip 1)
        else .ok (none, c)
    | none => .ok (none, c)
  match c.peek?.bind chompingOf? with
  | some chomping => do
      let (increment, c) ← width (c.skip 1)
      .ok (chomping, increment, c)
  | none => do
      let (increment, c) ← width c
      match increment, c.peek?.bind chompingOf? with
      | some _, some chomping => .ok (chomping, increment, c.skip 1)
      | _, _ => .ok (.clip, increment, c)

/-- A block scalar after its indicator, inside a block indented by `parent`. -/
def scanBlock (isLiteral : Bool) (parent : Int) (c : Cursor) :
    Except Fault (List Char × Cursor) := do
  let (chomping, increment, c) ← scanBlockHeader c
  let c := c.skipBlanks.skipComment
  if !atLineEnd c.rest then
    .error (.malformed "text after the header of a block scalar")
  else
    let c := c.takeBreak.2
    let known : Int := match increment with
      | some n => if 0 ≤ parent then parent + n else n
      | none => 0
    let (breaks, widest, c) ← scanBlockBreaks known c.rest.length [] 0 c
    let indent : Int := if known = 0 then max (max widest (parent + 1)) 1 else known
    scanBlockLines isLiteral chomping indent (c.rest.length + 1) [] [] breaks false c

end Moorage.Yaml
