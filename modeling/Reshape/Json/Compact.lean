import Reshape.View

namespace Reshape.Json

def escape (character : Char) : List Char :=
  if character == '"' then ['\\', '"']
  else if character == '\\' then ['\\', '\\']
  else if character == '\x08' then ['\\', 'b']
  else if character == '\x0c' then ['\\', 'f']
  else if character == '\n' then ['\\', 'n']
  else if character == '\r' then ['\\', 'r']
  else if character == '\t' then ['\\', 't']
  else if character.toNat < 0x20 then
    ['\\', 'u', '0', '0', Nat.digitChar (character.toNat / 16),
      Nat.digitChar (character.toNat % 16)]
  else [character]

def quoted (text : String) : List Char :=
  '"' :: text.toList.flatMap escape ++ ['"']

end Reshape.Json

namespace Reshape.View

mutual

def chars : View → List Char
  | .null => ['n', 'u', 'l', 'l']
  | .bool true => ['t', 'r', 'u', 'e']
  | .bool false => ['f', 'a', 'l', 's', 'e']
  | .number value => value.text.toList
  | .string value => Json.quoted value
  | .list items => '[' :: charsOfItems items ++ [']']
  | .map entries => '\x7b' :: charsOfEntries entries ++ ['\x7d']
  | .record _ entries => '\x7b' :: charsOfEntries entries ++ ['\x7d']

def charsOfItems : List View → List Char
  | [] => []
  | [item] => item.chars
  | item :: rest => item.chars ++ ',' :: charsOfItems rest

def charsOfEntries : List (String × View) → List Char
  | [] => []
  | [(name, item)] => Json.quoted name ++ ':' :: item.chars
  | (name, item) :: rest => Json.quoted name ++ ':' :: item.chars ++ ',' :: charsOfEntries rest

end

def text (view : View) : String := String.ofList view.chars

/-- The text of a value on its own: nothing for null, a string as it is, else its JSON text. -/
def plain : View → String
  | .null => ""
  | .string value => value
  | view => view.text

end Reshape.View
