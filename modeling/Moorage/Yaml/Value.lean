import Moorage.Decimal.Binary64
import Moorage.Text.Digits
import Moorage.Yaml.Node

/-!
# `Moorage.Yaml.Value`: YAML data

The values of the core schema. A plain scalar is read as null, a boolean, an
integer, a float or else as text; `Value.ofText` reads a text of one document, and
`Value.documents` one of several.
-/

set_option autoImplicit false

namespace Moorage.Yaml

/-- A YAML value. Mappings keep the order of their entries, and a custom tag, whose
text begins with an exclamation mark, stays with the value that it is put on. -/
inductive Value where
  | null
  | boolean (value : Bool)
  | integer (value : Int)
  | float (value : Binary64)
  | text (value : String)
  | sequence (items : List Value)
  | mapping (entries : List (Value × Value))
  | tagged (tag : String) (value : Value)
  deriving Repr, Inhabited

/-- The reading of an untagged plain scalar. -/
inductive Core where
  | null
  | boolean (value : Bool)
  | integer (value : Int)
  | wideInteger
  | float (value : Binary64)
  | text
  deriving DecidableEq, Repr

namespace Core

/-- Whether a text means null. -/
def isNull (s : String) : Bool := s = "null" || s = "Null" || s = "NULL" || s = "~"

/-- The boolean that a text means. -/
def boolean? (s : String) : Option Bool :=
  if s = "true" || s = "True" || s = "TRUE" then some true
  else if s = "false" || s = "False" || s = "FALSE" then some false
  else none

/-- The value of a digit in a base up to sixteen. -/
def digitIn? (base : Nat) (c : Char) : Option Nat :=
  (hexValue? c).filter (· < base)

/-- The number that a non-empty run of digits means in a base. -/
def number? (base : Nat) (digits : List Char) : Option Nat :=
  if digits.isEmpty then none
  else digits.foldlM (fun value c => (digitIn? base c).map (base * value + ·)) 0

/-- Whether digits begin with a needless zero, which makes them a text. -/
def hasNeedlessZero (digits : List Char) : Bool :=
  match digits with
  | '0' :: c :: rest => (c :: rest).all Char.isDigit
  | _ => false

/-- The size of an integer without a sign: decimal, or in another base after its
mark. -/
def magnitude? (digits : List Char) : Option Nat :=
  match digits with
  | '0' :: 'x' :: rest => number? 16 rest
  | '0' :: 'o' :: rest => number? 8 rest
  | '0' :: 'b' :: rest => number? 2 rest
  | _ => if hasNeedlessZero digits then none else number? 10 digits

/-- The size and the sign of an integer. -/
def signed? (s : List Char) : Option (Bool × Nat) :=
  match s with
  | '-' :: rest => (magnitude? rest).map (true, ·)
  | '+' :: rest => (magnitude? rest).map (false, ·)
  | _ => (magnitude? s).map (false, ·)

/-- The integer that a text means. Integers of 64 bits are values; wider ones up
to 128 bits are integers without a value; the rest are none. -/
def integer? (s : List Char) : Option Core :=
  match signed? s with
  | none => none
  | some (negative, n) =>
      if negative then
        if n ≤ Nat.pow 2 63 then some (.integer (-(n : Int)))
        else if n ≤ Nat.pow 2 127 then some .wideInteger
        else none
      else if n < Nat.pow 2 64 then some (.integer n)
      else if n < Nat.pow 2 128 then some .wideInteger
      else none

/-- The exponent of a decimal number: a mark, an optional sign and digits. -/
def exponent? (s : List Char) : Option Int :=
  match s with
  | [] => some 0
  | e :: rest =>
      if e = 'e' || e = 'E' then
        match rest with
        | '-' :: digits => (Text.digits? digits).map fun n => -(n : Int)
        | '+' :: digits => (Text.digits? digits).map fun n => (n : Int)
        | digits => (Text.digits? digits).map fun n => (n : Int)
      else none

/-- The decimal number that a text without a sign writes, with digits on at least
one side of the point. -/
def decimal? (negative : Bool) (s : List Char) : Option Binary64 := do
  let whole := s.takeWhile Char.isDigit
  let rest := s.dropWhile Char.isDigit
  let (fraction, rest) := match rest with
    | '.' :: rest => (rest.takeWhile Char.isDigit, rest.dropWhile Char.isDigit)
    | _ => ([], rest)
  let digits ← Text.digits? (whole ++ fraction)
  let exponent ← exponent? rest
  some (Binary64.ofDecimal negative digits (exponent - fraction.length))

/-- The float that a text means. A number too large to be finite is none. -/
def float? (s : List Char) : Option Binary64 :=
  let text := String.ofList s
  if [".inf", ".Inf", ".INF", "+.inf", "+.Inf", "+.INF"].contains text then
    some (.infinite false)
  else if ["-.inf", "-.Inf", "-.INF"].contains text then some (.infinite true)
  else if [".nan", ".NaN", ".NAN"].contains text then some .nan
  else
    (match s with
      | '-' :: rest => decimal? true rest
      | '+' :: '-' :: _ => none
      | '+' :: rest => decimal? false rest
      | _ => decimal? false s).filter Binary64.isFinite

/-- Whether a text is digits with a needless zero, after at most one sign. -/
def isZeroLed (s : List Char) : Bool :=
  match s with
  | '-' :: rest => hasNeedlessZero rest
  | '+' :: rest => hasNeedlessZero rest
  | _ => hasNeedlessZero s

/-- The reading of an untagged plain scalar. -/
def ofPlain (s : String) : Core :=
  if s = "" || isNull s then .null
  else
    match boolean? s with
    | some b => .boolean b
    | none =>
        match integer? s.toList with
        | some core => core
        | none =>
            if isZeroLed s.toList then .text
            else
              match float? s.toList with
              | some x => .float x
              | none => .text

end Core

/-- The reading of a scalar with an optional tag. A core tag forces its type and
must fit the text; a plain scalar without a tag or with a custom one is read by
its text; text with any other tag, or not plain, is text. -/
def readScalar (tag : Option Tag) (style : Style) (s : String) : Except Fault Core :=
  let need (core : Option Core) : Except Fault Core :=
    match core with
    | some core => .ok core
    | none => .error (.malformed "a scalar that does not fit its tag")
  let byText := if style = .plain then Core.ofPlain s else .text
  match tag with
  | some t =>
      if t = Tag.core "bool" then need ((Core.boolean? s).map .boolean)
      else if t = Tag.core "int" then need (Core.integer? s.toList)
      else if t = Tag.core "float" then need ((Core.float? s.toList).map .float)
      else if t = Tag.core "null" then need (if Core.isNull s then some .null else none)
      else if t.isMarked then .ok byText
      else .ok .text
  | none => .ok byText

namespace Value

/-- The value of a scalar's reading. -/
def ofCore (s : String) : Core → Except Fault Value
  | .null => .ok .null
  | .boolean b => .ok (.boolean b)
  | .integer n => .ok (.integer n)
  | .wideInteger => .error .integerRange
  | .float x => .ok (.float x)
  | .text => .ok (.text s)

/-- The value under its custom tag, if it has one. -/
def withTag (tag : Option Tag) (value : Value) : Value :=
  match customName? tag with
  | some name => .tagged (customTag name) value
  | none => value

mutual

/-- Whether two values are the same: numbers by what they mean, where every
not-a-number is one, and mappings whatever the order of their entries. -/
def same : Value → Value → Bool
  | .null, .null => true
  | .boolean a, .boolean b => a = b
  | .integer a, .integer b => a = b
  | .float a, .float b => a.sameNumber b
  | .text a, .text b => a = b
  | .sequence a, .sequence b => sameItems a b
  | .mapping a, .mapping b => a.length = b.length && subEntries a b
  | .tagged s a, .tagged t b => s = t && same a b
  | _, _ => false

/-- Whether two lists hold the same values in one order. -/
def sameItems : List Value → List Value → Bool
  | [], [] => true
  | a :: as, b :: bs => same a b && sameItems as bs
  | _, _ => false

/-- Whether every entry of one mapping is an entry of another. -/
def subEntries : List (Value × Value) → List (Value × Value) → Bool
  | [], _ => true
  | entry :: rest, others => hasEntry entry others && subEntries rest others

/-- Whether a mapping holds an entry. -/
def hasEntry : Value × Value → List (Value × Value) → Bool
  | (key, value), others => others.any fun other => same key other.1 && same value other.2

end

instance : BEq Value := ⟨same⟩

/-- The entries of a mapping, as long as their keys are distinct. -/
def distinct (entries : List (Value × Value)) : Except Fault (List (Value × Value)) :=
  if entries.any fun entry => 1 < (entries.filter fun other => other.1 == entry.1).length then
    .error .duplicateKey
  else .ok entries

mutual

/-- The value of a node. `isBare` hides its tag, as in the key of a mapping with a
custom tag; what an alias stands for shows its tag anywhere. -/
def ofNode (isBare : Bool) : Node → Except Fault Value
  | .alias target => ofNode false target
  | .scalar tag style content => do
      let tag := if isBare then none else tag
      return withTag tag (← ofCore content (← readScalar tag style content))
  | .sequence tag items => do
      return withTag (if isBare then none else tag) (.sequence (← ofItems items))
  | .mapping tag entries => do
      let entries ← ofEntries (isBare || (customName? tag).isSome) entries
      return withTag (if isBare then none else tag) (.mapping (← distinct entries))

/-- The values of nodes. -/
def ofItems : List Node → Except Fault (List Value)
  | [] => .ok []
  | node :: rest => do return (← ofNode false node) :: (← ofItems rest)

/-- The values of a mapping's entries. -/
def ofEntries (isBare : Bool) : List (Node × Node) → Except Fault (List (Value × Value))
  | [] => .ok []
  | entry :: rest => do return (← ofEntry isBare entry) :: (← ofEntries isBare rest)

/-- The values of a key and its value. -/
def ofEntry (isBare : Bool) : Node × Node → Except Fault (Value × Value)
  | (key, value) => do return (← ofNode isBare key, ← ofNode false value)

end

/-- The value that a text writes. A text without a document writes null. -/
def ofText (text : String) : Except Fault Value := do
  match ← Node.ofText text with
  | none => return .null
  | some node => ofNode false node

/-- The values of the documents that a text holds. A text without a document writes
null. -/
def documents (text : String) : Except Fault (List Value) := do
  match ← Node.documents text with
  | [] => return [.null]
  | nodes => nodes.mapM (ofNode false)

/-- The value without the custom tags around it. -/
def untagged : Value → Value
  | .tagged _ value => value.untagged
  | value => value

end Value

end Moorage.Yaml
