import Reshape.Path.Index
/-!
Tokens of a path. A key descends one level; `*` opens a group that is applied to every
member; `>` merges the members' members; `|` closes the innermost group.
-/

namespace Reshape

inductive Token where
  | key (name : String)
  | wildcard
  | flatten
  | cancel
deriving DecidableEq

namespace Token

def ofSegment (segment : String) : Token :=
  if segment == "*" then .wildcard
  else if segment == ">" then .flatten
  else if segment == "|" then .cancel
  else .key segment

def text : Token → String
  | .key name => name
  | .wildcard => "*"
  | .flatten => ">"
  | .cancel => "|"

def key? : Token → Option String
  | .key name => some name
  | _ => none

def isOperator (token : Token) : Bool := token.key?.isNone

def opensGroup : Token → Bool
  | .wildcard => true
  | _ => false

end Token

end Reshape
