import Moorage.Text.Utf8

/-!
# `Moorage.Yaml.Tag`: the tags of nodes

A tag is bytes, because its percent escapes may write bytes that are no text. A tag
that begins with an exclamation mark is custom: it has a name of its own, if it is
text. The other tags say how to read a scalar, as far as they are those of the core
schema.
-/

set_option autoImplicit false

namespace Moorage.Yaml

/-- A tag. -/
structure Tag where
  bytes : List UInt8
  deriving DecidableEq, Repr, Inhabited

namespace Tag

/-- The bytes of a text. -/
def bytesOf (text : String) : List UInt8 := text.toUTF8.toList

/-- The tag of a text. -/
def ofText (text : String) : Tag := ⟨bytesOf text⟩

/-- The tags of the core schema. -/
def core (name : String) : Tag := ofText ("tag:yaml.org,2002:" ++ name)

/-- The text of a tag, if it is one. -/
def text? (tag : Tag) : Option String := (Text.Utf8.decode ⟨tag.bytes.toArray⟩).toOption

/-- Whether a tag begins with an exclamation mark. -/
def isMarked (tag : Tag) : Bool := tag.bytes.head? = some 0x21

end Tag

/-- What follows the exclamation mark that begins a text. The mark alone is
followed by itself. -/
def afterMark? (text : String) : Option String :=
  match text.toList with
  | ['!'] => some "!"
  | '!' :: rest => some (String.ofList rest)
  | _ => none

/-- The name of a custom tag. -/
def customName? (tag : Option Tag) : Option String := do afterMark? (← (← tag).text?)

/-- The custom tag of a name. A mark in front of the name is not written twice. -/
def customTag (name : String) : String := "!" ++ (afterMark? name).getD name

end Moorage.Yaml
