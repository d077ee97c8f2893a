/-!
# YAML tokens

The pieces that a YAML text is cut into before its structure is read. Where a block collection
starts and ends is seen from the indentation and shows as tokens of its own.
-/

namespace HistoryExpansion.Yaml

/-- How a scalar was written. -/
inductive Style where
  /-- Without quotes. -/
  | plain
  /-- Between single quotes. -/
  | single
  /-- Between double quotes. -/
  | double
  /-- As a block whose line breaks are kept. -/
  | literal
  /-- As a block whose line breaks are folded. -/
  | folded
  deriving DecidableEq, Repr

/-- What a line that starts with a percent sign says. -/
inductive Directive where
  /-- The version of YAML. -/
  | version
  /-- What the handle of a tag stands for. -/
  | handle (handle expansion : String)
  /-- Anything else, which counts for nothing. -/
  | other
  deriving DecidableEq, Repr

/-- A piece of a YAML text. -/
inductive Token where
  /-- The text ends here. -/
  | streamEnd
  /-- The text cannot be cut into tokens from here on. -/
  | broken
  /-- A line that starts with a percent sign. -/
  | directive (directive : Directive)
  /-- Three dashes. -/
  | documentStart
  /-- Three dots. -/
  | documentEnd
  /-- A block sequence starts. -/
  | blockSequenceStart
  /-- A block mapping starts. -/
  | blockMappingStart
  /-- A block collection ends. -/
  | blockEnd
  /-- An opening bracket. -/
  | flowSequenceStart
  /-- A closing bracket. -/
  | flowSequenceEnd
  /-- An opening brace. -/
  | flowMappingStart
  /-- A closing brace. -/
  | flowMappingEnd
  /-- The dash of a block sequence. -/
  | blockEntry
  /-- The comma of a flow collection. -/
  | flowEntry
  /-- A key follows. -/
  | key
  /-- A value follows. -/
  | value
  /-- A reference to an anchored node. -/
  | alias (name : String)
  /-- A name for the node that follows. -/
  | anchor (name : String)
  /-- A tag for the node that follows: its handle and what stands behind that. -/
  | tag (handle suffix : String)
  /-- A scalar with its text. -/
  | scalar (style : Style) (text : String)
  deriving DecidableEq, Repr

end HistoryExpansion.Yaml
