import Reshape.Json.Compact
import Reshape.Yaml.Scalar
/-!
YAML text in blocks. A list stands under its name without being indented; other nodes are
indented by two spaces. A string is written plainly where it then reads as itself, over
several lines if it holds line breaks, and otherwise in quotes.
-/

namespace Reshape.Yaml

def isBreak (character : Char) : Bool :=
  character == '\n' || character == '\r' || character == '\u0085' || character == '\u2028' ||
    character == '\u2029'

def isPrintable (character : Char) : Bool :=
  character == '\n' || (' ' ≤ character && character ≤ '~') ||
    ('\u00a0' ≤ character && character != '\ufeff' && character != '\ufffe' &&
        character != '\uffff')

def blankFollows : List Char → Bool
  | [] => true
  | character :: _ =>
      character == ' ' || character == '\t' || character == '\x00' || isBreak character

/-- Whether a character that passes one test stands right before one that passes another. -/
def hasPair (first second : Char → Bool) : List Char → Bool
  | left :: right :: rest => (first left && second right) || hasPair first second (right :: rest)
  | _ => false

/-- Whether a mark inside a text would end it: a colon before a blank, or a number sign after
one. -/
def hasInnerMark : (blankBefore : Bool) → List Char → Bool
  | _, [] => false
  | blankBefore, character :: rest =>
      (character == ':' && blankFollows rest) || (character == '#' && blankBefore) ||
        hasInnerMark (blankFollows [character]) rest

def hasFirstMark : List Char → Bool
  | [] => false
  | '-' :: '-' :: '-' :: _ => true
  | '.' :: '.' :: '.' :: _ => true
  | character :: rest =>
      "#,[]\x7b\x7d&*!|>'\"%@`".toList.contains character ||
        ((character == '?' || character == ':' || character == '-') && blankFollows rest)

def isSpace (character : Char) : Bool := character == ' '

/-- Whether a text would lose something on a line with others, even in single quotes. -/
def needsEscapes (text : List Char) : Bool :=
  hasPair isBreak isSpace text || hasPair isSpace isBreak text || !text.all isPrintable

def isPlain (text : List Char) : Bool :=
  !needsEscapes text && !text.any isBreak && text.head? != some ' ' && text.getLast? != some ' ' &&
    !hasFirstMark text && !hasInnerMark false (text.drop 1) && !text.isEmpty

def isBlock (text : List Char) : Bool :=
  text.getLast? != some ' ' && !hasPair isSpace isBreak text && text.all isPrintable

/-- Whether a text would be read as something other than a string, or looks like a number. -/
def isAmbiguous (text : String) : Bool :=
  hasLeadingZero text.toList ||
    match Meaning.ofPlain text with
    | .text => false
    | _ => true

/-- The form in which a string is written. -/
inductive Form where
  | plain
  | singleQuoted
  | doubleQuoted
  | block
deriving DecidableEq

def formOf (text : String) : Form :=
  let characters := text.toList
  let quoted := if needsEscapes characters then Form.doubleQuoted else .singleQuoted
  if characters.contains '\n' then
    if isBlock characters then .block else .doubleQuoted
  else if !isAmbiguous text && isPlain characters then .plain
  else quoted

def upperHexDigit (value : Nat) : Char := (Nat.digitChar value).toUpper

def hexDigits : (count : Nat) → (value : Nat) → List Char
  | 0, _ => []
  | count + 1, value => hexDigits count (value / 16) ++ [upperHexDigit (value % 16)]

def escape (character : Char) : List Char :=
  let letter (mark : Char) := ['\\', mark]
  match character with
  | '\x00' => letter '0'
  | '\x07' => letter 'a'
  | '\x08' => letter 'b'
  | '\t' => letter 't'
  | '\n' => letter 'n'
  | '\x0b' => letter 'v'
  | '\x0c' => letter 'f'
  | '\r' => letter 'r'
  | '\x1b' => letter 'e'
  | '"' => letter '"'
  | '\\' => letter '\\'
  | '\u0085' => letter 'N'
  | '\u2028' => letter 'L'
  | '\u2029' => letter 'P'
  | character =>
      if isPrintable character then [character]
      else
        let value := character.toNat
        if value < 0x100 then '\\' :: 'x' :: hexDigits 2 value
        else if value < 0x10000 then '\\' :: 'u' :: hexDigits 4 value
        else '\\' :: 'U' :: hexDigits 8 value

def spaces (count : Nat) : List Char := List.replicate count ' '

/-- Text in which a line that follows a break begins with `indent` spaces. -/
def indentLines (indent : Nat) : (afterBreak : Bool) → List Char → List Char
  | _, [] => []
  | afterBreak, character :: rest =>
      if isBreak character then character :: indentLines indent true rest
      else
        (if afterBreak then spaces indent else []) ++
          character :: indentLines indent false rest

/-- What stands after an opening single quote, with the closing one. A quote is followed by another
one, and what follows a break is indented. -/
def quotedChars (indent : Nat) : (afterBreak : Bool) → List Char → List Char
  | afterBreak, [] => (if afterBreak then spaces indent else []) ++ ['\'']
  | afterBreak, character :: rest =>
      if isBreak character then character :: quotedChars indent true rest
      else
        (if afterBreak then spaces indent else []) ++
          character :: (if character == '\'' then ['\''] else []) ++ quotedChars indent false rest

/-- The mark of a block whose indentation cannot be seen from its first line. -/
def blockHint (text : List Char) : List Char :=
  match text.head? with
  | some character => if character == ' ' || isBreak character then ['2'] else []
  | none => []

/-- The sign of a block that ends without a break, or with more than a single one. -/
def blockSign (text : List Char) : List Char :=
  match text.reverse with
  | [] => ['-']
  | [last] => if isBreak last then ['+'] else ['-']
  | last :: before :: _ => if !isBreak last then ['-'] else if isBreak before then ['+'] else []

def blockMarks (text : List Char) : List Char := '|' :: blockHint text ++ blockSign text

/-- A string as far as the end of its line. A block goes on over lines of its own. -/
def stringChars (indent : Nat) (text : String) : List Char :=
  let characters := text.toList
  match formOf text with
  | .plain => characters
  | .singleQuoted => '\'' :: quotedChars indent false characters
  | .doubleQuoted => '"' :: characters.flatMap escape ++ ['"']
  | .block => blockMarks characters ++ '\n' :: indentLines indent true characters

/-- A text with the end of its last line, unless it ends in a break already. -/
def endLine (text : List Char) : List Char :=
  if text.getLast?.any isBreak then text else text ++ ['\n']

/-- A name longer than this, in bytes, stands on lines of its own. -/
def longestName : Nat := 128

def isShortName (name : String) : Bool :=
  name.utf8ByteSize ≤ longestName && !name.toList.any isBreak

end Reshape.Yaml

namespace Reshape.View

open Yaml

def leafChars (indent : Nat) : View → List Char
  | .number value => (value.textWith "e").toList
  | .string value => stringChars indent value
  | .list _ => ['[', ']']
  | .map _ => ['\x7b', '\x7d']
  | .record _ _ => ['\x7b', '\x7d']
  | view => view.chars

mutual

def itemChars (indent : Nat) : List View → List Char
  | [] => []
  | item :: rest =>
      spaces indent ++ '-' :: ' ' :: item.nodeChars (indent + 2) ++ itemChars indent rest

/-- The entries of a map, each on a line that begins with its name. A name that is not short
stands after a question mark, and its value on a line of its own. -/
def mapChars (indent : Nat) : List (String × View) → List Char
  | [] => []
  | (name, value) :: rest =>
      spaces indent ++
        (if isShortName name then stringChars indent name ++ ':' :: value.namedChars indent
          else
            '?' :: ' ' :: endLine (stringChars (indent + 2) name) ++
              spaces indent ++ ':' :: ' ' :: value.nodeChars (indent + 2)) ++
        mapChars indent rest

/-- A node after a mark, which has taken the place of its first indentation. -/
def nodeChars (indent : Nat) : View → List Char
  | .list (first :: rest) => (itemChars indent (first :: rest)).drop indent
  | .map (first :: rest) => (mapChars indent (first :: rest)).drop indent
  | .record _ (first :: rest) => (mapChars indent (first :: rest)).drop indent
  | view => endLine (view.leafChars indent)

def namedChars (indent : Nat) : View → List Char
  | .list (first :: rest) => '\n' :: itemChars indent (first :: rest)
  | .map (first :: rest) => '\n' :: mapChars (indent + 2) (first :: rest)
  | .record _ (first :: rest) => '\n' :: mapChars (indent + 2) (first :: rest)
  | view => ' ' :: endLine (view.leafChars (indent + 2))

end

/-- A document. The lines of a block are indented even where nothing stands around it. -/
def yamlChars : View → List Char
  | .list (first :: rest) => itemChars 0 (first :: rest)
  | .map (first :: rest) => mapChars 0 (first :: rest)
  | .record _ (first :: rest) => mapChars 0 (first :: rest)
  | view => endLine (view.leafChars 2)

def yamlText (view : View) : String := String.ofList view.yamlChars

end Reshape.View
