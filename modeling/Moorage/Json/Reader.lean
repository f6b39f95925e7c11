import Moorage.Json
import Moorage.Text.Utf8

/-!
# `Moorage.Json.Reader`: JSON values of texts

A text is cut into tokens, and the tokens build a value on a stack of the lists
and objects that are still open.

* `Token.all`: the tokens of a text.
* `Json.read?`: the value of a text that is one JSON value, blanks around it
  allowed.
-/

set_option autoImplicit false

namespace Moorage.Json

/-- A piece of a JSON text. -/
inductive Token where
  | openList
  | closeList
  | openObject
  | closeObject
  | colon
  | comma
  | scalar (value : Json)
  deriving Repr

/-- The value of a hexadecimal digit. -/
def hexValue? (c : Char) : Option Nat :=
  if '0' ≤ c ∧ c ≤ '9' then some (c.toNat - '0'.toNat)
  else if 'a' ≤ c ∧ c ≤ 'f' then some (c.toNat - 'a'.toNat + 10)
  else if 'A' ≤ c ∧ c ≤ 'F' then some (c.toNat - 'A'.toNat + 10)
  else none

/-- The number of four hexadecimal digits. -/
def hexValue4? (a b c d : Char) : Option Nat := do
  return (← hexValue? a) * 4096 + (← hexValue? b) * 256 + (← hexValue? c) * 16 + (← hexValue? d)

/-- The character of an escape of one letter. -/
def escape? : Char → Option Char
  | '"' => some '"'
  | '\\' => some '\\'
  | '/' => some '/'
  | 'b' => some '\x08'
  | 'f' => some '\x0c'
  | 'n' => some '\n'
  | 'r' => some '\r'
  | 't' => some '\t'
  | _ => none

/-- The character of a unit of sixteen bits that stands alone. -/
def lone? (unit : Nat) : Option Char :=
  if 0xD800 ≤ unit ∧ unit < 0xE000 then none else some (Char.ofNat unit)

/-- The character of a pair of surrogates. -/
def pair? (high low : Nat) : Option Char :=
  if 0xD800 ≤ high ∧ high < 0xDC00 ∧ 0xDC00 ≤ low ∧ low < 0xE000 then
    some (Char.ofNat (0x10000 + (high - 0xD800) * 1024 + (low - 0xDC00)))
  else none

/-- A string up to its closing quote, and what follows it. The characters so far
are given, the last one first. -/
def stringRest (soFar : List Char) : List Char → Option (String × List Char)
  | [] => none
  | '"' :: rest => some (String.ofList soFar.reverse, rest)
  | '\\' :: 'u' :: a :: b :: c :: d :: '\\' :: 'u' :: e :: f :: g :: h :: rest =>
      match hexValue4? a b c d with
      | none => none
      | some first =>
          match (hexValue4? e f g h).bind (pair? first), lone? first with
          | some char, _ => stringRest (char :: soFar) rest
          | none, some char =>
              stringRest (char :: soFar) ('\\' :: 'u' :: e :: f :: g :: h :: rest)
          | none, none => none
  | '\\' :: 'u' :: a :: b :: c :: d :: rest =>
      match (hexValue4? a b c d).bind lone? with
      | some char => stringRest (char :: soFar) rest
      | none => none
  | '\\' :: c :: rest =>
      match escape? c with
      | some char => stringRest (char :: soFar) rest
      | none => none
  | c :: rest => if c.toNat < 32 then none else stringRest (c :: soFar) rest

/-- Whether a character may stand in a number or a word. -/
def inWord (c : Char) : Bool := c.isAlphanum || c = '+' || c = '-' || c = '.'

/-- Digits without a sign, in which a zero stands only alone at the front. -/
def isWhole : List Char → Bool
  | [] => false
  | ['0'] => true
  | '0' :: _ => false
  | digits => digits.all Char.isDigit

/-- A run of digits. -/
def isDigits (digits : List Char) : Bool := !digits.isEmpty && digits.all Char.isDigit

/-- Whether a text is an exponent: an optional sign and digits. -/
def isExponent : List Char → Bool
  | '+' :: digits => isDigits digits
  | '-' :: digits => isDigits digits
  | digits => isDigits digits

/-- The number that a word writes. -/
def number? (word : List Char) : Option Json :=
  let unsigned := match word with
    | '-' :: rest => rest
    | _ => word
  let negative := unsigned.length < word.length
  let mantissa := unsigned.takeWhile fun c => c ≠ 'e' ∧ c ≠ 'E'
  let exponent := unsigned.drop mantissa.length
  let whole := mantissa.takeWhile (· ≠ '.')
  let fraction := mantissa.drop whole.length
  if !isWhole whole then none
  else if !(fraction.isEmpty || isDigits (fraction.drop 1)) then none
  else if !(exponent.isEmpty || isExponent (exponent.drop 1)) then none
  else if fraction.isEmpty && exponent.isEmpty then
    let value : Int := (String.ofList whole).toNat?.getD 0
    some (.integer (if negative then -value else value))
  else some (.decimal (String.ofList word))

/-- The value of a word. -/
def word? (word : List Char) : Option Json :=
  if word = "null".toList then some .null
  else if word = "true".toList then some (.boolean true)
  else if word = "false".toList then some (.boolean false)
  else number? word

/-- The blanks between tokens. -/
def isBlank (c : Char) : Bool := c = ' ' || c = '\n' || c = '\r' || c = '\t'

/-- The first token of a text, and what follows it. -/
def Token.first? : List Char → Option (Token × List Char)
  | [] => none
  | '[' :: rest => some (.openList, rest)
  | ']' :: rest => some (.closeList, rest)
  | '\x7b' :: rest => some (.openObject, rest)
  | '\x7d' :: rest => some (.closeObject, rest)
  | ':' :: rest => some (.colon, rest)
  | ',' :: rest => some (.comma, rest)
  | '"' :: rest => (stringRest [] rest).map fun (text, rest) => (.scalar (.string text), rest)
  | text =>
      let word := text.takeWhile inWord
      (word? word).map fun value => (.scalar value, text.drop word.length)

/-- The tokens of a text. Every token has a character, so that `limit` need not be
more than the length of the text. -/
def Token.all (limit : Nat) (text : List Char) : Option (List Token) :=
  match limit, text.dropWhile isBlank with
  | _, [] => some []
  | 0, _ => none
  | limit + 1, text =>
      match Token.first? text with
      | none => none
      | some (token, rest) => (Token.all limit rest).map (token :: ·)

/-- A list or an object that is still open, its parts so far with the last one
first, and for an object the key of the value to come. -/
inductive Open where
  | list (items : List Json)
  | object (members : List (String × Json)) (key : String)

/-- What may come next. -/
inductive Awaited where
  | value
  | valueOrEnd
  | key
  | keyOrEnd
  | colon (key : String)
  | commaOrEnd
  deriving Repr

/-- A value under way. -/
structure Building where
  stack : List Open := []
  awaited : Awaited := .value
  result : Option Json := none

/-- The building with one more whole value. -/
def Building.place (b : Building) (value : Json) : Building :=
  match b.stack with
  | [] => { b with result := some value, awaited := .commaOrEnd }
  | .list items :: rest => { b with stack := .list (value :: items) :: rest, awaited := .commaOrEnd }
  | .object members key :: rest =>
      { b with stack := .object ((key, value) :: members) "" :: rest, awaited := .commaOrEnd }

/-- The building with one more list or object open, up to the depth of 128. -/
def Building.enter (b : Building) (frame : Open) (awaited : Awaited) : Option Building :=
  if b.stack.length < 127 then some { b with stack := frame :: b.stack, awaited := awaited }
  else none

/-- The building after one more token. Nothing may follow a whole value. -/
def Building.add (b : Building) (token : Token) : Option Building :=
  if b.result.isSome then none
  else
    match b.awaited, token, b.stack with
    | .value, .scalar v, _ | .valueOrEnd, .scalar v, _ => some (b.place v)
    | .value, .openList, _ | .valueOrEnd, .openList, _ => b.enter (.list []) .valueOrEnd
    | .value, .openObject, _ | .valueOrEnd, .openObject, _ => b.enter (.object [] "") .keyOrEnd
    | .key, .scalar (.string key), _ | .keyOrEnd, .scalar (.string key), _ =>
        some { b with awaited := .colon key }
    | .colon key, .colon, .object members _ :: rest =>
        some { b with stack := .object members key :: rest, awaited := .value }
    | .commaOrEnd, .comma, .list _ :: _ => some { b with awaited := .value }
    | .commaOrEnd, .comma, .object _ _ :: _ => some { b with awaited := .key }
    | .valueOrEnd, .closeList, .list items :: rest | .commaOrEnd, .closeList, .list items :: rest =>
        some ({ b with stack := rest }.place (.array items.reverse))
    | .keyOrEnd, .closeObject, .object members _ :: rest
    | .commaOrEnd, .closeObject, .object members _ :: rest =>
        some ({ b with stack := rest }.place (.object members.reverse))
    | _, _, _ => none

/-- The value of a text. -/
def read? (text : String) : Option Json := do
  let tokens ← Token.all text.length text.toList
  (← tokens.foldlM Building.add {}).result

/-- The value of bytes that are JSON text. -/
def ofBytes? (bytes : ByteArray) : Option Json := (Text.Utf8.decode bytes).toOption.bind read?

end Moorage.Json
