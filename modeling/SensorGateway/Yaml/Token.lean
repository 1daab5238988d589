/-!
Tokens of a configuration document.
-/

set_option autoImplicit false

namespace SensorGateway.Yaml

/-- How a scalar was written. -/
inductive ScalarStyle where
  | plain
  | singleQuoted
  | doubleQuoted
  | literal
  | folded
deriving DecidableEq, Repr

/-- What the scanner makes of the characters. -/
inductive Token where
  | streamEnd
  | versionDirective (major minor : Nat)
  | tagDirective (handle start : String)
  | documentStart
  | documentEnd
  | blockSequenceStart
  | blockMappingStart
  | blockEnd
  | flowSequenceStart
  | flowSequenceEnd
  | flowMappingStart
  | flowMappingEnd
  | blockEntry
  | flowEntry
  | key
  | value
  | reference (name : String)
  | anchor (name : String)
  | tag (handle suffix : String)
  | scalar (text : String) (style : ScalarStyle)
deriving DecidableEq, Repr

/-- Why a document cannot be read. -/
inductive Flaw where
  | controlCharacter
  | strayCharacter
  | keyWithoutValue
  | keyNotAllowed
  | valueNotAllowed
  | entryNotAllowed
  | badDirective
  | badAnchor
  | badTag
  | badBlockHeader
  | tabInIndentation
  | documentMarkInQuotes
  | unclosedQuotes
  | badEscape
  | flowColon
  | documentStartMissing
  | nodeMissing
  | entryMissing
  | keyMissing
  | separatorMissing
  | unknownTagHandle
  | unknownAnchor
  | secondDocument
  | tooDeep
deriving DecidableEq, Repr

end SensorGateway.Yaml
