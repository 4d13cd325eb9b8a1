import BenchCampaign.Yaml.NodeTag

/-!
# The tokens of YAML

A YAML text is a sequence of tokens.  Besides what is written there are tokens
for structure that only the layout shows: the beginning and the end of a block
collection, and the key of a mapping entry that has no question mark.
-/

namespace BenchCampaign

namespace Yaml

/-- How a scalar is written. -/
inductive Style where
  | plain
  | singleQuoted
  | doubleQuoted
  | literal
  | folded
deriving DecidableEq, Repr

/-- A token. -/
inductive Token where
  | version (major minor : Nat)
  /-- Declares that a handle stands for the beginning of a tag. -/
  | handle (name : String) (beginning : NodeTag)
  | documentStart
  | documentEnd
  | blockSequenceStart
  | blockMappingStart
  | blockEnd
  | flowSequenceStart
  | flowSequenceEnd
  | flowMappingStart
  | flowMappingEnd
  | blockEntry
  | flowEntry
  | key
  | value
  | alias (name : String)
  | anchor (name : String)
  /-- A tag as the handle that begins it and the rest of it. -/
  | tag (handle : String) (suffix : NodeTag)
  | scalar (style : Style) (text : String)
  | textEnd
deriving DecidableEq, Repr

end Yaml

end BenchCampaign
