/-!
# `Moorage.Yaml.Token`: the tokens of a YAML text

Block collections are bracketed by tokens of their own, which indentation
produces, so that a reader of tokens needs no columns. The parts of a tag are bytes,
which its escapes may write at will.
-/

set_option autoImplicit false

namespace Moorage.Yaml

/-- The ways to write a scalar. -/
inductive Style where
  | plain
  | quoted
  | literal
  | folded
  deriving DecidableEq, Repr, Inhabited

/-- A token. -/
inductive Token where
  | versionDirective (major minor : List Char)
  | tagDirective (handle : String) (lead : List UInt8)
  | documentStart
  | documentEnd
  | blockSequenceStart
  | blockMappingStart
  | blockEnd
  | flowSequenceStart
  | flowSequenceEnd
  | flowMappingStart
  | flowMappingEnd
  | blockEntry
  | flowEntry
  | key
  | value
  | alias (name : String)
  | anchor (name : String)
  | tag (handle : String) (suffix : List UInt8)
  | scalar (text : String) (style : Style)
  deriving DecidableEq, Repr, Inhabited

end Moorage.Yaml
