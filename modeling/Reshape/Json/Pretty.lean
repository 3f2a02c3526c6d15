import Reshape.Json.Compact

namespace Reshape.Json

def newLine (depth : Nat) : List Char := '\n' :: List.replicate (2 * depth) ' '

end Reshape.Json

namespace Reshape.View

open Json

mutual

def prettyChars (depth : Nat) : View → List Char
  | .list [] => ['[', ']']
  | .list (first :: rest) =>
      '[' :: newLine (depth + 1) ++ first.prettyChars (depth + 1) ++ prettyItems (depth + 1) rest ++
        newLine depth ++ [']']
  | .map entries => prettyMap depth entries
  | .record _ entries => prettyMap depth entries
  | view => view.chars

def prettyMap (depth : Nat) : List (String × View) → List Char
  | [] => ['\x7b', '\x7d']
  | (name, first) :: rest =>
      '\x7b' :: newLine (depth + 1) ++ quoted name ++ ':' :: ' ' :: first.prettyChars (depth + 1) ++
        prettyEntries (depth + 1) rest ++ newLine depth ++ ['\x7d']

def prettyItems (depth : Nat) : List View → List Char
  | [] => []
  | item :: rest => ',' :: newLine depth ++ item.prettyChars depth ++ prettyItems depth rest

def prettyEntries (depth : Nat) : List (String × View) → List Char
  | [] => []
  | (name, item) :: rest =>
      ',' :: newLine depth ++ quoted name ++ ':' :: ' ' :: item.prettyChars depth ++
        prettyEntries depth rest

end

def prettyText (view : View) : String := String.ofList (view.prettyChars 0)

end Reshape.View
