/-!
# `Moorage.Yaml.Fault`: text that is not YAML

The reasons for which a text is no YAML document with a value: it breaks the
grammar, or it names what a value cannot hold. One more is for a value that has no
text.
-/

set_option autoImplicit false

namespace Moorage.Yaml

/-- Why a text has no YAML value, or a value no text. -/
inductive Fault where
  | malformed (reason : String)
  | unknownAlias
  | duplicateKey
  | secondDocument
  | integerRange
  | tooDeep
  | aliasFlood
  | unwritable
  | stated (text : String)
  deriving DecidableEq, Repr

/-- The wording of a fault. -/
def Fault.message : Fault → String
  | .malformed reason => reason
  | .unknownAlias => "unknown anchor"
  | .duplicateKey => "duplicate key in a mapping"
  | .secondDocument => "more than one document"
  | .integerRange => "integer out of range"
  | .tooDeep => "nested too deeply"
  | .aliasFlood => "too many aliases"
  | .unwritable => "a key that begins like a tag"
  | .stated text => text

end Moorage.Yaml
