import ContainerWatch.Yaml.Tag
/-!
# Tokens of YAML

The marks and scalars of which a document is made.  Where the extent of a block collection follows from
indentation alone, tokens say explicitly where it starts and ends.
-/

namespace ContainerWatch.Yaml

/-- The ways of writing a scalar. -/
inductive Style where
  | plain
  | singleQuoted
  | doubleQuoted
  | literal
  | folded
  deriving DecidableEq, Repr

/-- A mark or a scalar of a document. -/
inductive Token where
  | directive (d : Directive)
  | documentStart
  | documentEnd
  | blockSequenceStart
  | blockMappingStart
  /-- the end of a block collection -/
  | blockEnd
  | flowSequenceStart
  | flowSequenceEnd
  | flowMappingStart
  | flowMappingEnd
  /-- the dash before an entry of a block sequence -/
  | blockEntry
  /-- the comma after an entry of a collection in brackets -/
  | flowEntry
  | key
  | value
  | alias (name : String)
  | anchor (name : String)
  | tag (t : Tag)
  | scalar (style : Style) (text : String)
  deriving DecidableEq, Repr

end ContainerWatch.Yaml
