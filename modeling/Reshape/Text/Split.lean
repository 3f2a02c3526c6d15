
namespace Reshape.Text

def prepend (character : Char) : List (List Char) → List (List Char)
  | [] => [[character]]
  | part :: rest => (character :: part) :: rest

/-- The parts of a text, after `skip` characters that belong to a separator found before. -/
def cut (separator : List Char) : (skip : Nat) → (text : List Char) → List (List Char)
  | _, [] => [[]]
  | skip + 1, _ :: rest => cut separator skip rest
  | 0, character :: rest =>
      if separator.isPrefixOf (character :: rest) then
        [] :: cut separator (separator.length - 1) rest
      else prepend character (cut separator 0 rest)

def split (separator text : String) : List String :=
  if separator.isEmpty then
    "" :: (text.toList.map fun character => String.ofList [character]) ++ [""]
  else (cut separator.toList 0 text.toList).map String.ofList

def join (separator : String) (parts : List String) : String := separator.intercalate parts

end Reshape.Text
