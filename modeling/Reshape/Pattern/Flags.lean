import Reshape.Pattern.Node
import Reshape.Text.Fold

namespace Reshape.Pattern

open Text (CharSet)

structure Flags where
  ignoreCase : Bool := false
  manyLines : Bool := false
  dotAll : Bool := false
  swapEager : Bool := false
  unicode : Bool := true
  crlf : Bool := false
  extended : Bool := false

namespace Flags

def set? (flags : Flags) (on : Bool) : (letter : Char) → Option Flags
  | 'i' => some { flags with ignoreCase := on }
  | 'm' => some { flags with manyLines := on }
  | 's' => some { flags with dotAll := on }
  | 'U' => some { flags with swapEager := on }
  | 'u' => some { flags with unicode := on }
  | 'R' => some { flags with crlf := on }
  | 'x' => some { flags with extended := on }
  | _ => none

/-- With case ignored, a set holds all characters that differ from its members in case. -/
def closeCase (flags : Flags) (set : CharSet) : CharSet :=
  if !flags.ignoreCase then set
  else if flags.unicode then set.closeCase
  else set.closeAsciiCase

def complement? (flags : Flags) (set : CharSet) : Option CharSet :=
  if flags.unicode then some set.complement else none

def negateIf? (flags : Flags) (negated : Bool) (set : CharSet) : Option CharSet :=
  if negated then flags.complement? set else some set

def letterSet (flags : Flags) (letter : Char) : CharSet := flags.closeCase (.single letter)

def digits (flags : Flags) : CharSet := if flags.unicode then Text.digits else .range '0' '9'

def blanks (flags : Flags) : CharSet := if flags.unicode then Text.blanks else Text.asciiBlanks

def words (flags : Flags) : CharSet :=
  if flags.unicode then Text.wordCharacters else Text.asciiWords

/-- What a point stands for: any character, as a rule none that ends a line. -/
def point? (flags : Flags) : Option CharSet :=
  if !flags.unicode then none
  else if flags.dotAll then some .full
  else if flags.crlf then some (CharSet.ofChars ['\n', '\r']).complement
  else some (CharSet.single '\n').complement

/-- A line begins after the end of another. Without the flag for many lines there is only one. -/
def lineStart (flags : Flags) : Place :=
  if flags.manyLines then .lineStart flags.crlf else .textStart

def lineEnd (flags : Flags) : Place :=
  if flags.manyLines then .lineEnd flags.crlf else .textEnd

end Flags

def classSet? : (name : String) → Option CharSet
  | "alnum" => some (.unionAll [.range 'a' 'z', .range 'A' 'Z', .range '0' '9'])
  | "alpha" => some (.unionAll [.range 'a' 'z', .range 'A' 'Z'])
  | "ascii" => some .ascii
  | "blank" => some (.ofChars ['\t', ' '])
  | "cntrl" => some (.unionAll [.range '\x00' '\x1f', .single '\x7f'])
  | "digit" => some (.range '0' '9')
  | "graph" => some (.range '!' '~')
  | "lower" => some (.range 'a' 'z')
  | "print" => some (.range ' ' '~')
  | "punct" =>
      some (.unionAll [.range '!' '/', .range ':' '@', .range '[' '\x60', .range '\x7b' '~'])
  | "space" => some Text.asciiBlanks
  | "upper" => some (.range 'A' 'Z')
  | "word" => some Text.asciiWords
  | "xdigit" => some (.unionAll [.range '0' '9', .range 'A' 'F', .range 'a' 'f'])
  | _ => none

end Reshape.Pattern
