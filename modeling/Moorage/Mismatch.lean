import Moorage.Decimal.Shortest
import Moorage.Text.Quoted

/-!
# `Moorage.Mismatch`: data of the wrong shape

What a reader of typed data says when a value is not what the field wants: what
it found, what it expected, and the one wording of each case.
-/

set_option autoImplicit false

namespace Moorage

/-- What stands where something else was expected. -/
inductive Found where
  | unit
  | sequence
  | map
  | integer (value : Int)
  | float (value : Binary64)
  | boolean (value : Bool)
  | text (value : String)
  deriving DecidableEq, Repr

/-- The name of what was found, with its value where it has one. -/
def Found.describe : Found → String
  | .unit => "unit value"
  | .sequence => "sequence"
  | .map => "map"
  | .integer n => "integer `" ++ toString n ++ "`"
  | .float x => "floating point `" ++ x.pointText ++ "`"
  | .boolean b => "boolean `" ++ (if b then "true" else "false") ++ "`"
  | .text s => "string " ++ Text.quoted s

/-- A way in which data misses the shape that its reader wants. -/
inductive Mismatch where
  | invalidType (found : Found) (expected : String)
  | invalidValue (found : Found) (expected : String)
  | unknownVariant (name : String) (known : List String)
  | unknownField (name : String) (known : List String)
  | missingField (name : String)
  | duplicateField (name : String)
  | duplicateEntry (key : String)
  | taggedValue
  deriving DecidableEq, Repr

/-- A list of known names as alternatives. -/
def alternatives (known : List String) : String :=
  match known.map fun name => "`" ++ name ++ "`" with
  | [one] => one
  | [one, two] => one ++ " or " ++ two
  | names => "one of " ++ String.intercalate ", " names

/-- The wording of a mismatch. -/
def Mismatch.message : Mismatch → String
  | .invalidType found expected =>
      "invalid type: " ++ found.describe ++ ", expected " ++ expected
  | .invalidValue found expected =>
      "invalid value: " ++ found.describe ++ ", expected " ++ expected
  | .unknownVariant name known =>
      "unknown variant `" ++ name ++ "`, expected " ++ alternatives known
  | .unknownField name known =>
      "unknown field `" ++ name ++ "`, expected " ++ alternatives known
  | .missingField name => "missing field `" ++ name ++ "`"
  | .duplicateField name => "duplicate field `" ++ name ++ "`"
  | .duplicateEntry key => "duplicate entry with key " ++ Text.quoted key
  | .taggedValue => "untagged and internally tagged enums do not support enum input"

/-- A mismatch together with the place in the document where it was met. -/
structure Misplaced where
  place : String
  mismatch : Mismatch
  deriving DecidableEq, Repr

/-- The wording of a mismatch after its place; the top of a document has no
place to name. -/
def Misplaced.message (m : Misplaced) : String :=
  if m.place = "" then m.mismatch.message else m.place ++ ": " ++ m.mismatch.message

end Moorage
