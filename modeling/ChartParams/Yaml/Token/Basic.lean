/-!
# Tokens of YAML texts

What the lexer finds in a text. Tokens without a text of their own mark where blocks begin and end,
which in the text only shows in the indentation.
-/

namespace ChartParams.Yaml

inductive Style
  | plain
  | singleQuoted
  | doubleQuoted
  | literal
  | folded
deriving DecidableEq

/-- A tag as the bytes it is made of. Bytes that a text gives by their numbers need not spell a
text of their own. -/
abbrev TagBytes := List UInt8

inductive Token
  /-- The version of the format that the text was written for. -/
  | version (major minor : Nat)
  /-- A handle of tags and what it stands for. -/
  | tagHandle (handle : List Char) (stem : TagBytes)
  | documentStart
  | documentEnd
  | blockSequenceStart
  | blockMappingStart
  | blockEnd
  | flowSequenceStart
  | flowSequenceEnd
  | flowMappingStart
  | flowMappingEnd
  | blockEntry
  | flowEntry
  | key
  | value
  | aliasTo (name : List Char)
  | anchor (name : List Char)
  | tag (handle : List Char) (rest : TagBytes)
  | scalar (text : List Char) (style : Style)
deriving DecidableEq

end ChartParams.Yaml
