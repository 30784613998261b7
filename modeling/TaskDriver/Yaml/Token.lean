/-! The tokens of a document. Blocks that stand by their indentation have a token for their start
and for their end. -/
namespace TaskDriver.Yaml

inductive Style
  | plain
  | quoted
  | literal
  | folded
  deriving DecidableEq, Repr

/-- The octets of a tag. -/
abbrev Octets := List UInt8

def octetsOf (s : List Char) : Octets :=
  (String.ofList s).toUTF8.toList

inductive Token
  | version (major minor : Nat)
  | handle (name : List Char) (stem : Octets)
  | documentStart
  | documentEnd
  | blockSequenceStart
  | blockMappingStart
  | blockEnd
  | flowSequenceStart
  | flowSequenceEnd
  | flowMappingStart
  | flowMappingEnd
  | flowEntry
  | entry
  | key
  | value
  | alias (name : List Char)
  | anchor (name : List Char)
  /-- An empty handle says that the suffix is the whole tag. -/
  | tag (handle : List Char) (suffix : Octets)
  | scalar (style : Style) (text : List Char)
  deriving DecidableEq, Repr

end TaskDriver.Yaml
