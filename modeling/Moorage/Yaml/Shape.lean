import Moorage.Mismatch
import Moorage.Yaml.Value

/-!
# `Moorage.Yaml.Shape`: reading typed data out of values

A reader takes a value and gives data of a type or says how the value misses its
shape. Nothing is converted: a number is no text and a text is no number. Null
stands for an empty list, an empty map, a record with every field missing, and
the absence of an optional value. Readers look through custom tags.
-/

set_option autoImplicit false

namespace Moorage.Yaml

/-- What a value is, for a message. -/
def Value.found : Value → Found
  | .null => .unit
  | .boolean b => .boolean b
  | .integer n => .integer n
  | .float x => .float x
  | .text s => .text s
  | .sequence _ => .sequence
  | .mapping _ => .map
  | .tagged _ value => value.found

/-- A reader of data of type `α`. -/
abbrev Shape (α : Type) := Value → Except Mismatch α

namespace Shape

/-- Refuses a value for the type that it has. -/
def refuse {α : Type} (value : Value) (expected : String) : Except Mismatch α :=
  .error (.invalidType value.found expected)

/-- A text, called `expected` in messages. -/
def textAs (expected : String) : Shape String := fun value =>
  match value.untagged with
  | .text s => .ok s
  | value => refuse value expected

/-- A text. -/
def text : Shape String := textAs "a string"

/-- The text of a path. -/
def path : Shape String := textAs "path string"

/-- A boolean. -/
def boolean : Shape Bool := fun value =>
  match value.untagged with
  | .boolean b => .ok b
  | value => refuse value "a boolean"

/-- A number below `2 ^ bits`. -/
def unsigned (bits : Nat) : Shape Nat := fun value =>
  match value.untagged with
  | .integer n =>
      if 0 ≤ n ∧ n < Nat.pow 2 bits then .ok n.toNat
      else .error (.invalidValue (.integer n) s!"u{bits}")
  | value => refuse value s!"u{bits}"

/-- A number of 16 bits. -/
def word16 : Shape UInt16 := fun value => (unsigned 16 value).map UInt16.ofNat

/-- A number of 32 bits. -/
def word32 : Shape UInt32 := fun value => (unsigned 32 value).map UInt32.ofNat

/-- A number of 64 bits. -/
def word64 : Shape UInt64 := fun value => (unsigned 64 value).map UInt64.ofNat

/-- An optional value. -/
def optional {α : Type} (shape : Shape α) : Shape (Option α)
  | .null => .ok none
  | value => (shape value).map some

/-- A list. -/
def list {α : Type} (shape : Shape α) : Shape (List α) := fun value =>
  match value.untagged with
  | .sequence items => items.mapM shape
  | .null => .ok []
  | value => refuse value "a sequence"

/-- Texts under text keys, in the order of the document. -/
def textPairs : Shape (List (String × String)) := fun value =>
  match value.untagged with
  | .mapping entries =>
      entries.mapM fun (key, value) => do return (← text key, ← text value)
  | .null => .ok []
  | value => refuse value "a map"

/-- One of the given values, which are known by their words. A custom tag on null
stands for its name. -/
def keyword {α : Type} (word : α → String) (all : List α) : Shape α := fun value =>
  let ofWord (s : String) : Except Mismatch α :=
    match all.find? fun x => word x = s with
    | some x => .ok x
    | none => .error (.unknownVariant s (all.map word))
  match value with
  | .text s => ofWord s
  | .tagged tag .null => ofWord (String.ofList (tag.toList.drop 1))
  | value => refuse value "a Value::Tagged enum"

/-- How a record takes in the value of one of its fields. -/
abbrev Field (α : Type) := Value → α → Except Mismatch α

/-- A field of the given shape and the record with it. -/
def field {α β : Type} (shape : Shape β) (store : α → β → α) : Field α :=
  fun value record => (shape value).map (store record)

/-- A field that has to be of the given shape and says nothing. -/
def ignored {α β : Type} (shape : Shape β) : Field α :=
  field shape fun record _ => record

/-- Takes in the entries of a record in their order. Unknown fields say nothing; a
known one may occur once. -/
def takeFields {α : Type} (fields : String → Option (Field α)) :
    (seen : List String) → List (Value × Value) → α → Except Mismatch α
  | _, [], record => .ok record
  | seen, (key, value) :: rest, record =>
      match key.untagged with
      | .text name =>
          match fields name with
          | some take =>
              if seen.contains name then .error (.duplicateField name)
              else do takeFields fields (name :: seen) rest (← take value record)
          | none => takeFields fields seen rest record
      | _ => refuse key "field identifier"

/-- A record that starts from its defaults. -/
def record {α : Type} (name : String) (start : α) (fields : String → Option (Field α)) :
    Shape α := fun value =>
  match value.untagged with
  | .mapping entries => takeFields fields [] entries start
  | .null => .ok start
  | value => refuse value s!"struct {name}"

/-- The value of a field that must not be missing. -/
def required {α : Type} (name : String) : Option α → Except Mismatch α
  | some value => .ok value
  | none => .error (.missingField name)

end Shape

end Moorage.Yaml
