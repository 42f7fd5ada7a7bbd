import ImportCensus.Yaml.Cursor

namespace ImportCensus
namespace Yaml

/-!
# Tokens

The tokens that a document is made of.  Those that mark the beginning and the end
of a block, and the mark in front of a key, may stand for indentation alone.
-/

/-- How a scalar is written. -/
inductive ScalarStyle where
  | plain
  | quoted
  | block
  deriving DecidableEq, Repr

/-- What a directive says. -/
inductive Directive where
  | version (major minor : Nat)
  | tag (handle shortened : String)
  | unknown
  deriving DecidableEq, Repr

inductive TokenKind where
  | streamStart
  | streamEnd
  | directive (directive : Directive)
  | documentStart
  | documentEnd
  | blockSequenceStart
  | blockMappingStart
  | blockEnd
  | flowSequenceStart
  | flowSequenceEnd
  | flowMappingStart
  | flowMappingEnd
  | key
  | value
  | blockItem
  | flowItem
  | alias (name : String)
  | anchor (name : String)
  | tag (handle : Option String) (suffix : String)
  | scalar (text : String) (style : ScalarStyle)
  deriving DecidableEq, Repr

structure Token where
  kind : TokenKind
  start : Mark
  stop : Mark
  deriving Repr

/-- How a token is named in messages. -/
def TokenKind.name : TokenKind -> String
  | .streamStart => "<stream start>"
  | .streamEnd => "<stream end>"
  | .directive _ => "<directive>"
  | .documentStart => "<document start>"
  | .documentEnd => "<document end>"
  | .blockSequenceStart => "<block sequence start>"
  | .blockMappingStart => "<block mapping start>"
  | .blockEnd => "<block end>"
  | .flowSequenceStart => "["
  | .flowSequenceEnd => "]"
  | .flowMappingStart => "\x7b"
  | .flowMappingEnd => "\x7d"
  | .key => "?"
  | .value => ":"
  | .blockItem => "-"
  | .flowItem => ","
  | .alias _ => "<alias>"
  | .anchor _ => "<anchor>"
  | .tag _ _ => "<tag>"
  | .scalar _ _ => "<scalar>"

end Yaml
end ImportCensus
