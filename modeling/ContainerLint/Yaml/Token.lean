/-
The tokens of a document, each with the places where it starts and stops and the
remarks that stay with it.
-/
import ContainerLint.Value.Basic
import ContainerLint.Yaml.Remark

namespace ContainerLint.Yaml

/-- The tag written on a node: a handle, unless the tag is verbatim or bare, and the
rest of it, with percent signs as they are written. -/
structure WrittenTag where
  handle : Option String
  suffix : String
  deriving Repr, DecidableEq

/-- A line at the head of a document that tells how to read it. -/
inductive Directive where
  | version (major minor : Nat)
  | tag (handle expansion : String)
  /-- A directive of another name, which changes nothing. -/
  | other (name : String)
  deriving Repr, DecidableEq

/-- What a token is. -/
inductive TokenKind where
  | streamStart
  | streamEnd
  | directive (d : Directive)
  | documentStart
  | documentEnd
  | blockSequenceStart
  | blockMappingStart
  | blockEnd
  | flowSequenceStart
  | flowMappingStart
  | flowSequenceEnd
  | flowMappingEnd
  | key
  | value
  | blockEntry
  | flowEntry
  | reference (name : String)
  | anchor (name : String)
  | tag (t : WrittenTag)
  | scalar (text : String) (style : ScalarStyle)
  | comment (text : String)
  deriving Repr, DecidableEq

/-- The name of a token in messages. -/
def TokenKind.name : TokenKind → String
  | .streamStart => "<stream start>"
  | .streamEnd => "<stream end>"
  | .directive _ => "<directive>"
  | .documentStart => "<document start>"
  | .documentEnd => "<document end>"
  | .blockSequenceStart => "<block sequence start>"
  | .blockMappingStart => "<block mapping start>"
  | .blockEnd => "<block end>"
  | .flowSequenceStart => "["
  | .flowMappingStart => "\x7b"
  | .flowSequenceEnd => "]"
  | .flowMappingEnd => "\x7d"
  | .key => "?"
  | .value => ":"
  | .blockEntry => "-"
  | .flowEntry => ","
  | .reference _ => "<alias>"
  | .anchor _ => "<anchor>"
  | .tag _ => "<tag>"
  | .scalar .. => "<scalar>"
  | .comment _ => "<comment>"

/-- A token, its places and the remarks on it, if it has any. -/
structure Token where
  kind : TokenKind
  start : Mark
  stop : Mark
  remarks : Option Remarks := none
  deriving Repr, DecidableEq

namespace Token

/-- A token without remarks. -/
def bare (kind : TokenKind) (start stop : Mark) : Token :=
  { kind := kind, start := start, stop := stop }

/-- The token with a remark after it. -/
def withAfter (t : Token) (r : Remark) : Token :=
  { t with remarks := some { t.remarks.getD {} with after := some r } }

end Token

end ContainerLint.Yaml
