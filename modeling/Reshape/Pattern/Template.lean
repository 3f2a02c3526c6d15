import Reshape.Pattern.Reader
import Reshape.Pattern.Search
/-!
Replacing matches. A template holds text and references to groups: `$` and a name or number,
in braces or as long as letters, digits and `_` go on. A dollar sign written twice, or with
nothing to refer to, stands for itself. A group that is not there or has not matched has
the empty text.
-/

namespace Reshape.Pattern

inductive Piece where
  | letter (letter : Char)
  | reference (name : String)

def isReferencePart (character : Char) : Bool := character.isAlphanum || character == '_'

def reference? : (text : List Char) → Option (String × List Char)
  | '\x7b' :: rest => (cutAt? ['\x7d'] rest).map fun (name, rest) => (String.ofList name, rest)
  | text =>
      match text.takeWhile isReferencePart with
      | [] => none
      | name => some (String.ofList name, text.dropWhile isReferencePart)

/-- The pieces of a template. Every turn takes at least one character, so `fuel` may be the
length of the text. -/
def pieces : (fuel : Nat) → (text : List Char) → List Piece
  | 0, _ => []
  | _ + 1, [] => []
  | fuel + 1, '$' :: '$' :: rest => .letter '$' :: pieces fuel rest
  | fuel + 1, '$' :: rest =>
      match reference? rest with
      | some (name, rest) => .reference name :: pieces fuel rest
      | none => .letter '$' :: pieces fuel rest
  | fuel + 1, letter :: rest => .letter letter :: pieces fuel rest

/-- The number of a group that is referred to by number, perhaps with a plus sign, or by name. -/
def groupNumber? (names : List (String × Nat)) (name : String) : Option Nat :=
  let digits := match name.toList with
    | '+' :: digits => digits
    | digits => digits
  if !digits.isEmpty && digits.all Char.isDigit then some (Nat.ofDigitChars 10 digits 0)
  else names.lookup name

namespace Match

def position? (found : Match) (slot : Nat) : Option Nat := found.recorded.lookup slot

def groupText (found : Match) (text : Array Char) (number : Nat) : List Char :=
  if number = 0 then (text.extract found.first found.last).toList
  else
    match found.position? (2 * number), found.position? (2 * number + 1) with
    | some first, some last => (text.extract first last).toList
    | _, _ => []

def expand (found : Match) (text : Array Char) (names : List (String × Nat)) : Piece → List Char
  | .letter letter => [letter]
  | .reference name =>
      match groupNumber? names name with
      | some number => found.groupText text number
      | none => []

end Match

def replaceFrom (text : Array Char) (replacement : Match → List Char) (position : Nat) :
    List Match → List Char
  | [] => (text.extract position text.size).toList
  | found :: rest =>
      (text.extract position found.first).toList ++ replacement found ++
        replaceFrom text replacement found.last rest

namespace Expression

def replaceAll (expression : Expression) (text template : String) : String :=
  let characters := text.toList.toArray
  let parts := pieces template.toList.length template.toList
  let replacement (found : Match) := parts.flatMap (found.expand characters expression.names)
  String.ofList
    (replaceFrom characters replacement 0 (allMatches expression.root.machine characters))

end Expression

end Reshape.Pattern
