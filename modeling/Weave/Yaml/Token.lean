import Weave.Yaml.Mark

/-! # YAML tokens

The tokens of a YAML text: stream and document bounds, directives, the starts and ends
of block and flow collections, the key, value and entry indicators, aliases, anchors,
tags and scalars. Each token carries the marks where it starts and ends.
-/

namespace Weave.Yaml

/-- The value of a directive: a `YAML` version, a `TAG` handle with its prefix, or
nothing for another directive. -/
inductive DirectiveValue where
  | version (major minor : Nat)
  | tagPrefix (handle pre : String)
  | other
deriving DecidableEq, Repr

/-- A YAML token. -/
inductive Token where
  | streamStart
  | streamEnd
  | directive (name : String) (value : DirectiveValue)
  | documentStart
  | documentEnd
  | blockSequenceStart
  | blockMappingStart
  | blockEnd
  | flowSequenceStart
  | flowMappingStart
  | flowSequenceEnd
  | flowMappingEnd
  | key
  | value
  | blockEntry
  | flowEntry
  | aliasRef (name : String)
  | anchor (name : String)
  | tag (handle : Option String) (suffix : String)
  | scalar (text : String) (plain : Bool) (style : Option Char)
deriving DecidableEq, Repr, Inhabited

namespace Token

/-- How reports name a token. -/
def id : Token → String
  | streamStart => "<stream start>"
  | streamEnd => "<stream end>"
  | directive .. => "<directive>"
  | documentStart => "<document start>"
  | documentEnd => "<document end>"
  | blockSequenceStart => "<block sequence start>"
  | blockMappingStart => "<block mapping start>"
  | blockEnd => "<block end>"
  | flowSequenceStart => "["
  | flowMappingStart => "\x7b"
  | flowSequenceEnd => "]"
  | flowMappingEnd => "\x7d"
  | key => "?"
  | value => ":"
  | blockEntry => "-"
  | flowEntry => ","
  | aliasRef _ => "<alias>"
  | anchor _ => "<anchor>"
  | tag .. => "<tag>"
  | scalar .. => "<scalar>"

end Token

/-- A token with the marks where it starts and ends. -/
structure Marked where
  token : Token
  start : Mark
  stop : Mark
deriving Inhabited

end Weave.Yaml
