import Reshape.Text.Property

namespace Reshape.Pattern

/-- A test of the characters on both sides of a place. Lines end with a line feed or, with
`crlf`, also with a carriage return or both. Words have characters of Unicode or of ASCII. -/
inductive Place where
  | textStart
  | textEnd
  | lineStart (crlf : Bool)
  | lineEnd (crlf : Bool)
  | wordEdge (unicode : Bool)
  | noWordEdge (unicode : Bool)
  | wordStart (unicode : Bool)
  | wordEnd (unicode : Bool)
  | noWordBefore (unicode : Bool)
  | noWordAfter (unicode : Bool)
deriving DecidableEq

namespace Place

def isWord (unicode : Bool) (character : Char) : Bool :=
  if unicode then Text.wordCharacters.contains character else Text.asciiWords.contains character

def holds (place : Place) (before after : Option Char) : Bool :=
  match place with
  | .textStart => before.isNone
  | .textEnd => after.isNone
  | .lineStart false => before.isNone || before == some '\n'
  | .lineStart true =>
      before.isNone || before == some '\n' || (before == some '\r' && after != some '\n')
  | .lineEnd false => after.isNone || after == some '\n'
  | .lineEnd true =>
      after.isNone || after == some '\r' || (after == some '\n' && before != some '\r')
  | .wordEdge unicode => before.any (isWord unicode) != after.any (isWord unicode)
  | .noWordEdge unicode => before.any (isWord unicode) == after.any (isWord unicode)
  | .wordStart unicode => !before.any (isWord unicode) && after.any (isWord unicode)
  | .wordEnd unicode => before.any (isWord unicode) && !after.any (isWord unicode)
  | .noWordBefore unicode => !before.any (isWord unicode)
  | .noWordAfter unicode => !after.any (isWord unicode)

end Place

end Reshape.Pattern
