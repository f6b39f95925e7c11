import Moorage.Yaml.Token.Scalar

/-!
# `Moorage.Yaml.Token.Lexer`: from text to tokens

`Token.ofText` reads a whole text. Two things make YAML tokens depend on what
comes later or earlier: a key is only known as one when its colon is met, so the
lexer remembers where a key may have started; and indentation opens and closes
block collections, so it keeps the stack of open columns.
-/

set_option autoImplicit false

namespace Moorage.Yaml

/-- A place where a key may have started: the number of tokens before it, its
position, and whether a key must stand there. -/
structure KeyMark where
  tokenIndex : Nat
  index : Nat
  line : Nat
  column : Nat
  required : Bool
  deriving Repr, Inhabited

/-- The state of the lexer. `tokens` holds the tokens so far, the last one
first; `keys` holds the possible key of every open flow collection, the innermost
first, and at its end that of the block context. -/
structure Lexer where
  cursor : Cursor
  tokens : List Token := []
  count : Nat := 0
  indent : Int := -1
  indents : List Int := []
  keyAllowed : Bool := true
  keys : List (Option KeyMark) := [none]
  deriving Repr, Inhabited

namespace Lexer

/-- Whether the lexer is inside a flow collection. -/
def inFlow (s : Lexer) : Bool := 1 < s.keys.length

/-- The state with one more token. -/
def push (s : Lexer) (token : Token) : Lexer :=
  { s with tokens := token :: s.tokens, count := s.count + 1 }

/-- The state with a token put in front of the tokens from `index` on. -/
def insert (s : Lexer) (index : Nat) (token : Token) : Lexer :=
  let after := s.count - index
  { s with tokens := s.tokens.take after ++ token :: s.tokens.drop after, count := s.count + 1 }

/-- The column of the cursor. -/
def column (s : Lexer) : Int := s.cursor.column

/-- The most bytes between the start of a key and its colon. -/
def keyReach : Nat := 1024

/-- Forgets possible keys that lie on an earlier line or too far back; one that
had to be a key is then missing its colon. -/
def dropStaleKeys (s : Lexer) : Except Fault Lexer := do
  let keys ← s.keys.mapM fun key? =>
    match key? with
    | none => .ok none
    | some key =>
        if key.line < s.cursor.line || key.index + keyReach < s.cursor.index then
          if key.required then .error (.malformed "a key without a colon") else .ok none
        else .ok (some key)
  .ok { s with keys := keys }

/-- Forgets the possible key of the current collection. -/
def forgetKey (s : Lexer) : Except Fault Lexer :=
  match s.keys with
  | some key :: rest =>
      if key.required then .error (.malformed "a key without a colon")
      else .ok { s with keys := none :: rest }
  | _ => .ok s

/-- Remembers that a key may start at the cursor. -/
def markKey (s : Lexer) : Except Fault Lexer :=
  if s.keyAllowed then do
    let required := !s.inFlow && decide (s.indent = s.column)
    let s ← s.forgetKey
    let key : KeyMark :=
      { tokenIndex := s.count, index := s.cursor.index, line := s.cursor.line,
        column := s.cursor.column, required := required }
    .ok { s with keys := some key :: s.keys.drop 1 }
  else .ok s

/-- Opens a block collection at a column deeper than the current one. The token
goes in front of the tokens from `index` on. -/
def openBlock (s : Lexer) (column : Int) (index : Nat) (token : Token) : Lexer :=
  if s.inFlow || decide (column ≤ s.indent) then s
  else { s.insert index token with indent := column, indents := s.indent :: s.indents }

/-- Closes block collections while their columns lie beyond `column`. -/
def closeFrom (column : Int) (tokens : List Token) (count : Nat) (indent : Int) :
    (indents : List Int) → List Token × Nat × Int × List Int
  | [] => (tokens, count, indent, [])
  | outer :: rest =>
      if column < indent then closeFrom column (.blockEnd :: tokens) (count + 1) outer rest
      else (tokens, count, indent, outer :: rest)

/-- Closes every block collection whose column lies beyond `column`. -/
def closeBlocks (s : Lexer) (column : Int) : Lexer :=
  if s.inFlow then s
  else
    let (tokens, count, indent, indents) := closeFrom column s.tokens s.count s.indent s.indents
    { s with tokens := tokens, count := count, indent := indent, indents := indents }

/-- Moves to the next token, over blanks, comments, line breaks and a byte order
mark at the start of a line. A tab is blank only where it cannot be taken for
indentation. -/
def skipToToken : (fuel : Nat) → Lexer → Lexer
  | 0, s => s
  | fuel + 1, s =>
      let tabs := s.inFlow || !s.keyAllowed
      let start := s.cursor.skipByteOrderMark
      let cursor := (start.span fun x => x = ' ' || (tabs && x = '\t')).2.skipComment
      if cursor.peek?.any isBreak then
        skipToToken fuel
          { s with cursor := cursor.takeBreak.2, keyAllowed := s.keyAllowed || !s.inFlow }
      else { s with cursor := cursor }

/-- A word of letters, digits, hyphens and underscores. -/
def scanWord (c : Cursor) : String × Cursor :=
  let (word, c) := c.span isWordChar
  (String.ofList word, c)

/-- The name of an anchor or an alias after its mark. -/
def scanName (c : Cursor) : Except Fault (String × Cursor) :=
  let (name, c) := scanWord c
  if name = "" || !(atSpace c.rest || c.peek?.any ("?:,]\x7d%@`".toList.contains ·)) then
    .error (.malformed "a bad anchor name")
  else .ok (name, c)

/-- The bytes of consecutive percent escapes, at most `count` of them. -/
def percentBytes : (count : Nat) → List Char → Option (List UInt8)
  | 0, _ => some []
  | count + 1, '%' :: a :: b :: rest => do
      let byte ← hexNumber? [a, b]
      (percentBytes count rest).map (UInt8.ofNat byte :: ·)
  | _, _ => none

/-- The number of bytes in the UTF-8 form that starts with `byte`. -/
def leadWidth? (byte : Nat) : Option Nat :=
  if byte < 0x80 then some 1
  else if byte / 32 = 6 then some 2
  else if byte / 16 = 14 then some 3
  else if byte / 8 = 30 then some 4
  else none

/-- The bytes of one character that percent escapes write, as far as its first byte
counts the others. They need not be the UTF-8 form of any character. -/
def percentRun? (text : List Char) : Option (List UInt8) := do
  let lead ← (← percentBytes 1 text).head?
  let bytes ← percentBytes (← leadWidth? lead.toNat) text
  if (bytes.drop 1).all fun byte => 0x80 ≤ byte && byte < 0xC0 then some bytes else none

/-- Whether a character may stand in a tag. -/
def isTagChar (verbatim : Bool) (c : Char) : Bool :=
  isWordChar c || ";/?:@&=+$.%!~*'()".toList.contains c
    || (verbatim && ",[]".toList.contains c)

/-- The bytes of a tag: those of the characters that may stand in one, and those that
escapes write. -/
def scanTagBytes (verbatim : Bool) :
    (fuel : Nat) → List UInt8 → Cursor → Except Fault (List UInt8 × Cursor)
  | 0, bytes, c => .ok (bytes, c)
  | fuel + 1, bytes, c =>
      match c.peek? with
      | none => .ok (bytes, c)
      | some x =>
          if x = '%' then
            match percentRun? c.rest with
            | none => .error (.malformed "a bad escape in a tag")
            | some run => scanTagBytes verbatim fuel (bytes ++ run) (c.skip (3 * run.length))
          else if isTagChar verbatim x then
            scanTagBytes verbatim fuel (bytes ++ [UInt8.ofNat x.toNat]) (c.skip 1)
          else .ok (bytes, c)

/-- What bytes contribute to a tag: those before the first zero. -/
def beforeZero (bytes : List UInt8) : List UInt8 := bytes.takeWhile (· ≠ 0)

/-- A tag handle: an exclamation mark, a word, and a second mark if it follows. -/
def scanHandle (c : Cursor) : Except Fault (List Char × Cursor) :=
  if c.at_ '!' then
    let (word, c) := (c.skip 1).span isWordChar
    if c.at_ '!' then .ok ('!' :: word ++ ['!'], c.skip 1) else .ok ('!' :: word, c)
  else .error (.malformed "a tag without an exclamation mark")

/-- A tag: its handle and its suffix. A verbatim tag and the lone exclamation
mark have an empty handle. -/
def scanTag (inFlow : Bool) (c : Cursor) : Except Fault (Token × Cursor) := do
  let (token, c) ←
    if c.rest[1]? = some '<' then do
      let (bytes, c) ← scanTagBytes true c.rest.length [] (c.skip 2)
      if bytes.isEmpty || !c.at_ '>' then .error (.malformed "a bad verbatim tag")
      else .ok (Token.tag "" (beforeZero bytes), c.skip 1)
    else do
      let (handle, c) ← scanHandle c
      if 2 ≤ handle.length && handle.getLast? = some '!' then do
        let (bytes, c) ← scanTagBytes false c.rest.length [] c
        if bytes.isEmpty then .error (.malformed "a tag without a suffix")
        else .ok (Token.tag (String.ofList handle) (beforeZero bytes), c)
      else do
        let word := (String.ofList (handle.drop 1)).toUTF8.toList
        let (bytes, c) ← scanTagBytes false c.rest.length word c
        if (beforeZero bytes).isEmpty then .ok (Token.tag "" [0x21], c)
        else .ok (Token.tag "!" (beforeZero bytes), c)
  if (inFlow && c.at_ ',') || atSpace c.rest then .ok (token, c)
  else .error (.malformed "text after a tag")

/-- A number of a version directive, which has one to nine digits. -/
def scanVersionNumber (c : Cursor) : Except Fault (List Char × Cursor) :=
  let (digits, c) := c.span Char.isDigit
  if digits.isEmpty || 9 < digits.length then .error (.malformed "a bad version number")
  else .ok (digits, c)

/-- A directive after its percent sign, with the line that it stands on. -/
def scanDirective (c : Cursor) : Except Fault (Token × Cursor) := do
  let (name, c) := scanWord c
  if name = "" || !atSpace c.rest then .error (.malformed "a bad directive name")
  let (token, c) ←
    if name = "YAML" then do
      let (major, c) ← scanVersionNumber c.skipBlanks
      if !c.at_ '.' then .error (.malformed "a version without a point")
      let (minor, c) ← scanVersionNumber (c.skip 1)
      .ok (Token.versionDirective major minor, c)
    else if name = "TAG" then do
      let (handle, c) ← scanHandle c.skipBlanks
      if !(handle = ['!'] || handle.getLast? = some '!') then
        .error (.malformed "a bad tag handle")
      if !c.peek?.any isBlank then .error (.malformed "a tag directive without a blank")
      let (lead, c) ← scanTagBytes true c.rest.length [] c.skipBlanks
      if lead.isEmpty || !atSpace c.rest then .error (.malformed "a bad tag directive")
      .ok (Token.tagDirective (String.ofList handle) (beforeZero lead), c)
    else .error (.malformed "an unknown directive")
  let c := c.skipBlanks.skipComment
  if !atLineEnd c.rest then .error (.malformed "text after a directive")
  .ok (token, c.takeBreak.2)

/-- The state after a token of `width` characters. -/
def take (s : Lexer) (token : Token) (width : Nat) (keyAllowed : Bool) : Lexer :=
  { s.push token with cursor := s.cursor.skip width, keyAllowed := keyAllowed }

/-- Reads the colon of a mapping value: the remembered key, if there is one, gets
its tokens now. -/
def fetchValue (s : Lexer) : Except Fault Lexer :=
  match s.keys with
  | some key :: rest =>
      let s := { s.insert key.tokenIndex .key with keys := none :: rest }
      let s := s.openBlock key.column key.tokenIndex .blockMappingStart
      .ok (s.take .value 1 false)
  | _ =>
      if s.inFlow then .ok (s.take .value 1 false)
      else if !s.keyAllowed then .error (.malformed "a mapping value where none may stand")
      else .ok ((s.openBlock s.column s.count .blockMappingStart).take .value 1 true)

/-- Reads a mark that introduces a block entry or a key. -/
def fetchBlockMark (s : Lexer) (collection mark : Token) (keyAllowed : Bool) :
    Except Fault Lexer :=
  if s.inFlow then do
    let s ← s.forgetKey
    .ok (s.take mark 1 keyAllowed)
  else if !s.keyAllowed then .error (.malformed "a block collection where none may stand")
  else do
    let s ← (s.openBlock s.column s.count collection).forgetKey
    .ok (s.take mark 1 keyAllowed)

/-- Reads a document boundary. -/
def fetchBoundary (s : Lexer) (token : Token) : Except Fault Lexer := do
  let s ← (s.closeBlocks (-1)).forgetKey
  .ok (s.take token 3 false)

/-- Opens a flow collection. -/
def openFlow (s : Lexer) (token : Token) : Except Fault Lexer := do
  let s ← s.markKey
  .ok { s.take token 1 true with keys := none :: s.keys }

/-- Closes a flow collection. -/
def closeFlow (s : Lexer) (token : Token) : Except Fault Lexer := do
  let s ← s.forgetKey
  let keys := if s.inFlow then s.keys.drop 1 else s.keys
  .ok { s.take token 1 false with keys := keys }

/-- Reads an anchor, an alias, a tag or a flow scalar: something that may be, or
begin, a key. -/
def fetchKeyed (s : Lexer) (scan : Lexer → Except Fault (Token × Cursor)) :
    Except Fault Lexer := do
  let s ← s.markKey
  let s := { s with keyAllowed := false }
  let (token, cursor) ← scan s
  .ok { s.push token with cursor := cursor }

/-- Whether a plain scalar may start with `x` before `rest`. -/
def startsPlain (inFlow : Bool) (x : Char) (rest : List Char) : Bool :=
  !(isSpace x || "-?:,[]\x7b\x7d#&*!|>'\"%@`".toList.contains x)
    || (x = '-' && !rest.head?.any isBlank)
    || (!inFlow && (x = '?' || x = ':') && !atSpace rest)

/-- Reads one token at the cursor, which stands at a character `x`. -/
def fetchAt (s : Lexer) (x : Char) (rest : List Char) : Except Fault Lexer :=
  let c := s.cursor
  if c.column = 0 && x = '%' then do
    let s ← (s.closeBlocks (-1)).forgetKey
    let (token, cursor) ← scanDirective (c.skip 1)
    .ok { s.push token with cursor := cursor, keyAllowed := false }
  else if c.atBoundary '-' then s.fetchBoundary .documentStart
  else if c.atBoundary '.' then s.fetchBoundary .documentEnd
  else if x = '[' then s.openFlow .flowSequenceStart
  else if x = '\x7b' then s.openFlow .flowMappingStart
  else if x = ']' then s.closeFlow .flowSequenceEnd
  else if x = '\x7d' then s.closeFlow .flowMappingEnd
  else if x = ',' then do
    let s ← s.forgetKey
    .ok (s.take .flowEntry 1 true)
  else if x = '-' && atSpace rest then s.fetchBlockMark .blockSequenceStart .blockEntry true
  else if x = '?' && (s.inFlow || atSpace rest) then
    s.fetchBlockMark .blockMappingStart .key (!s.inFlow)
  else if x = ':' && (s.inFlow || atSpace rest) then s.fetchValue
  else if x = '*' then
    s.fetchKeyed fun s => do
      let (name, c) ← scanName (s.cursor.skip 1)
      .ok (.alias name, c)
  else if x = '&' then
    s.fetchKeyed fun s => do
      let (name, c) ← scanName (s.cursor.skip 1)
      .ok (.anchor name, c)
  else if x = '!' then s.fetchKeyed fun s => scanTag s.inFlow s.cursor
  else if (x = '|' || x = '>') && !s.inFlow then do
    let s ← s.forgetKey
    let (text, cursor) ← scanBlock (x = '|') s.indent (c.skip 1)
    let token := Token.scalar (String.ofList text) (if x = '|' then .literal else .folded)
    .ok { s.push token with cursor := cursor, keyAllowed := true }
  else if x = '\'' || x = '"' then
    s.fetchKeyed fun s => do
      let (text, c) ← scanQuoted x s.cursor.rest.length [] (s.cursor.skip 1)
      .ok (.scalar (String.ofList text) .quoted, c)
  else if startsPlain s.inFlow x rest then do
    let s ← s.markKey
    let (text, broken, cursor) ←
      scanPlain s.inFlow (s.indent + 1) (c.rest.length + 1) [] {} c
    .ok { s.push (.scalar (String.ofList text) .plain) with cursor := cursor, keyAllowed := broken }
  else .error (.malformed "a character that starts no token")

/-- Reads every token from the cursor on. -/
def run : (fuel : Nat) → Lexer → Except Fault (List Token)
  | 0, _ => .error (.malformed "no end of the text")
  | fuel + 1, s => do
      let s ← (skipToToken (s.cursor.rest.length + 1) s).dropStaleKeys
      let s := s.closeBlocks s.column
      match s.cursor.rest with
      | [] =>
          let s ← (s.closeBlocks (-1)).forgetKey
          .ok s.tokens.reverse
      | x :: rest =>
          let s ← s.fetchAt x rest
          run fuel s

end Lexer

/-- The tokens of a text. -/
def Token.ofText (text : String) : Except Fault (List Token) :=
  let chars := text.toList
  if chars.all isAllowed then
    Lexer.run (chars.length + 1) { cursor := { rest := chars } }
  else .error (.malformed "a control character")

end Moorage.Yaml
