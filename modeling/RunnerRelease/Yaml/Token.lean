/-!
# Tokens of YAML

The parts of which a YAML text is made, indentation included.
-/

namespace RunnerRelease.Yaml

/-- The way in which a scalar is written. -/
inductive ScalarStyle where
  | plain
  | singleQuoted
  | doubleQuoted
  | literal
  | folded
deriving DecidableEq, Repr

/-- A part of a YAML text. -/
inductive Token where
  | streamEnd
  | version (major minor : Nat)
  /-- Declares what a tag handle stands for. -/
  | tagHandle (handle stem : String)
  | documentStart
  | documentEnd
  | blockSequenceStart
  | blockMappingStart
  | blockEnd
  | flowSequenceStart
  | flowSequenceEnd
  | flowMappingStart
  | flowMappingEnd
  | blockEntry
  | flowEntry
  | key
  | value
  | reference (name : String)
  | anchor (name : String)
  | tag (handle suffix : String)
  | scalar (style : ScalarStyle) (text : String)
deriving DecidableEq, Repr

end RunnerRelease.Yaml
