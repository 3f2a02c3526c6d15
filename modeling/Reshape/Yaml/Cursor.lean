
namespace Reshape.Yaml

structure Cursor where
  rest : List Char
  line : Nat := 0
  column : Nat := 0

def isGap (character : Char) : Bool :=
  character == ' ' || character == '\t' || character == '\n'

/-- Whether nothing but a gap or the end follows. -/
def gapFollows : List Char → Bool
  | [] => true
  | character :: _ => isGap character

namespace Cursor

def advance (cursor : Cursor) (count : Nat) : Cursor :=
  { cursor with rest := cursor.rest.drop count, column := cursor.column + count }

/-- Skips blanks, comments and line breaks up to the next token. At the beginning of a line
a tab is skipped only inside brackets. -/
def skipFrom (inBrackets : Bool) (tabs inComment : Bool) (line column : Nat) : List Char → Cursor
  | [] => { rest := [], line, column }
  | character :: rest =>
      if character == '\n' then skipFrom inBrackets inBrackets false (line + 1) 0 rest
      else if inComment || character == ' ' || (character == '\t' && tabs) then
        skipFrom inBrackets tabs inComment line (column + 1) rest
      else if character == '#' then skipFrom inBrackets tabs true line (column + 1) rest
      else { rest := character :: rest, line, column }

def skip (cursor : Cursor) (inBrackets tabs : Bool) : Cursor :=
  skipFrom inBrackets (inBrackets || tabs) false cursor.line cursor.column cursor.rest

def skipAfter (cursor : Cursor) : Cursor := cursor.skip false true

def atMarker (cursor : Cursor) : Bool :=
  cursor.column == 0 &&
    match cursor.rest with
    | first :: second :: third :: rest =>
        (first == '-' || first == '.') && second == first && third == first && gapFollows rest
    | _ => false

def atEnd (cursor : Cursor) : Bool := cursor.rest.isEmpty || cursor.atMarker

def atDash (cursor : Cursor) : Bool :=
  match cursor.rest with
  | '-' :: rest => gapFollows rest
  | _ => false

def atColon (cursor : Cursor) : Bool :=
  match cursor.rest with
  | ':' :: rest => gapFollows rest
  | _ => false

def skipBlanks (cursor : Cursor) : Cursor :=
  let blanks := cursor.rest.takeWhile fun character => character == ' ' || character == '\t'
  cursor.advance blanks.length

end Cursor

end Reshape.Yaml
