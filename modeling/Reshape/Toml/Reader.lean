import Reshape.Toml.Table
import Reshape.Toml.Text

namespace Reshape.Toml

def skipLines : (inComment : Bool) → List Char → Option (List Char)
  | _, [] => some []
  | true, character :: rest =>
      if character == '\n' then skipLines false rest
      else if isText character then skipLines true rest
      else none
  | false, character :: rest =>
      if isBlank character || character == '\n' then skipLines false rest
      else if character == '#' then skipLines true rest
      else some (character :: rest)

/-- What follows the end of a line, at which a comment may stand. -/
def lineEnd? (text : List Char) : Option (List Char) :=
  let text := skipBlanks text
  let (comment, rest) := match text with
    | '#' :: more => (more.takeWhile (· != '\n'), more.dropWhile (· != '\n'))
    | text => ([], text)
  match rest with
  | [] => if comment.all isText then some [] else none
  | character :: rest => if character == '\n' && comment.all isText then some rest else none

def isNamePart (character : Char) : Bool :=
  character.isAlphanum || character == '_' || character == '-'

def namePart? (text : List Char) : Option (String × List Char) :=
  match text.takeWhile isNamePart with
  | [] => string? false text
  | name => some (String.ofList name, text.dropWhile isNamePart)

def name? : (fuel : Nat) → (text : List Char) → Option (List String × List Char)
  | 0, _ => none
  | fuel + 1, text => do
      let (part, rest) ← namePart? (skipBlanks text)
      match skipBlanks rest with
      | '.' :: rest =>
          let (parts, rest) ← name? fuel rest
          return (part :: parts, rest)
      | rest => return ([part], rest)

def isPlainPart (character : Char) : Bool :=
  character.isAlphanum || ['_', '-', '+', '.'].contains character

mutual

/-- A value. Its fuel bounds the number of turns, each of which reads at least a character. -/
def value? : (fuel : Nat) → (text : List Char) → Option (Value × List Char)
  | 0, _ => none
  | fuel + 1, text =>
      match text with
      | '[' :: rest => items? fuel [] rest
      | '\x7b' :: rest => do
          match skipBlanks rest with
          | '\x7d' :: rest => return (.map [], rest)
          | rest => assignments? fuel [] rest
      | '"' :: _ => (string? true text).map fun (string, rest) => (.string string, rest)
      | '\'' :: _ => (string? true text).map fun (string, rest) => (.string string, rest)
      | text =>
          (plainValue? (text.takeWhile isPlainPart)).map (·, text.dropWhile isPlainPart)

def items? : (fuel : Nat) → (items : List Value) → (text : List Char) → Option (Value × List Char)
  | 0, _, _ => none
  | fuel + 1, items, text => do
      match ← skipLines false text with
      | ']' :: rest => return (.list items.reverse, rest)
      | text =>
          let (item, rest) ← value? fuel text
          match ← skipLines false rest with
          | ',' :: rest => items? fuel (item :: items) rest
          | ']' :: rest => return (.list (item :: items).reverse, rest)
          | _ => none

def assignments? : (fuel : Nat) → (table : Table) → (text : List Char) → Option (Value × List Char)
  | 0, _, _ => none
  | fuel + 1, table, text => do
      let (path, rest) ← name? text.length text
      match rest with
      | '=' :: rest =>
          let (value, rest) ← value? fuel (skipBlanks rest)
          let table ← Table.assign? value path table
          match skipBlanks rest with
          | ',' :: rest => assignments? fuel table rest
          | '\x7d' :: rest => return (.map (Item.toValues table), rest)
          | _ => none
      | _ => none

end

/-- A document that has been read in part: its table, and the path of the one that is open. -/
structure Reading where
  root : Table := []
  path : List String := []

def header? (double : Bool) (reading : Reading) (text : List Char) :
    Option (Reading × List Char) := do
  let (path, rest) ← name? text.length text
  match double, rest with
  | false, ']' :: rest => return ({ root := ← reading.root.openTable? path, path }, rest)
  | true, ']' :: ']' :: rest => return ({ root := ← reading.root.openElement? path, path }, rest)
  | _, _ => none

def assignment? (reading : Reading) (text : List Char) : Option (Reading × List Char) := do
  let (path, rest) ← name? text.length text
  match rest with
  | '=' :: rest =>
      let (value, rest) ← value? rest.length (skipBlanks rest)
      let root ← reading.root.within? (Table.assign? value path) reading.path
      return ({ reading with root }, rest)
  | _ => none

def readLines? : (fuel : Nat) → (reading : Reading) → (text : List Char) → Option Table
  | 0, _, _ => none
  | fuel + 1, reading, text => do
      match ← skipLines false text with
      | [] => return reading.root
      | text =>
          let (reading, rest) ← match text with
            | '[' :: '[' :: rest => header? true reading rest
            | '[' :: rest => header? false reading rest
            | text => assignment? reading text
          readLines? fuel reading (← lineEnd? rest)

def plainBreaks : List Char → List Char
  | [] => []
  | '\r' :: '\n' :: rest => '\n' :: plainBreaks rest
  | character :: rest => character :: plainBreaks rest

/-- The value of a TOML text, which is a map. A byte order mark may begin the text. -/
def read? (text : String) : Option Value := do
  let characters := match plainBreaks text.toList with
    | '\ufeff' :: rest => rest
    | characters => characters
  let table ← readLines? (characters.length + 1) {} characters
  return .map (Item.toValues table)

end Reshape.Toml
