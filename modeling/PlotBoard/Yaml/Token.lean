import PlotBoard.Yaml.Directive

namespace PlotBoard.Yaml

/-!
# Tokens of settings texts

Settings are written in YAML: block and flow collections, scalars in all
styles, comments, document markers and directives, and anchors, references and
tags of nodes. There is no library for that notation to build on, and a file of
settings may use any of it, so it is read here in full. A fault is reported by
its line, which is why texts that are not readable are scanned and read as far
as they are.
-/

/-- How a scalar is written: as it stands, in quotation marks, or under a bar or another sign. -/
inductive ScalarStyle where
  | plain
  | quoted
  | literal
  | folded
  deriving DecidableEq

/-- What a token is. -/
inductive TokenKind where
  | directive (content : Directive)
  | documentStart
  | documentEnd
  | blockMappingStart
  | blockSequenceStart
  | blockEnd
  | flowMappingStart
  | flowMappingEnd
  | flowSequenceStart
  | flowSequenceEnd
  | blockEntry
  | flowEntry
  | key
  | value
  | scalar (style : ScalarStyle) (text : String)
  /-- The number that references to the next node have. -/
  | anchor (number : Nat)
  /-- A reference to an anchored node, if there is an anchor of that name before. -/
  | reference (number : Option Nat)
  /-- The tag of the next node, if its handle is known. -/
  | tag (name : Option String)
  | finished
  | unreadable
  deriving DecidableEq

/-- A token and the line, counted from one, on which it starts. -/
structure Token where
  kind : TokenKind
  line : Nat
  deriving DecidableEq

end PlotBoard.Yaml
