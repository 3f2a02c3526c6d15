import Reshape.Text.Hex
import Reshape.Value.Basic

namespace Reshape.Toml

def isBlank (character : Char) : Bool := character == ' ' || character == '\t'

def skipBlanks (text : List Char) : List Char := text.dropWhile isBlank

def isText (character : Char) : Bool :=
  character == '\t' || (' ' ≤ character && character != '\x7f')

def hexLetter? (count : Nat) (text : List Char) : Option (Char × List Char) := do
  let digits := text.take count
  let number ← if digits.length = count then Text.hexNumber? digits else none
  if number.isValidChar then return (Char.ofNat number, text.drop count) else none

def escape? : List Char → Option (Char × List Char)
  | 'b' :: rest => some ('\x08', rest)
  | 't' :: rest => some ('\t', rest)
  | 'n' :: rest => some ('\n', rest)
  | 'f' :: rest => some ('\x0c', rest)
  | 'r' :: rest => some ('\r', rest)
  | '"' :: rest => some ('"', rest)
  | '\\' :: rest => some ('\\', rest)
  | 'u' :: rest => hexLetter? 4 rest
  | 'U' :: rest => hexLetter? 8 rest
  | _ => none

structure Quoting where
  mark : Char
  escapes : Bool
  manyLines : Bool

/-- The end of a string on several lines: three marks, before which up to two more belong to
the string. -/
def closing? (mark : Char) (text : List Char) : Option (Nat × List Char) :=
  let marks := (text.takeWhile (· == mark)).length
  if marks < 3 then none else some (min (marks - 3) 2, text.drop (min marks 5))

def stringRest? (quoting : Quoting) : (fuel : Nat) → (read : List Char) → (text : List Char) →
    Option (String × List Char)
  | 0, _, _ => none
  | _ + 1, _, [] => none
  | fuel + 1, read, character :: rest =>
      let finish (read rest : List Char) := some (String.ofList read.reverse, rest)
      let go (letter : Char) (rest : List Char) := stringRest? quoting fuel (letter :: read) rest
      if character == quoting.mark then
        if quoting.manyLines then
          match closing? quoting.mark (character :: rest) with
          | some (more, rest) => finish (List.replicate more quoting.mark ++ read) rest
          | none => go character rest
        else finish read rest
      else if character == '\\' && quoting.escapes then
        match escape? rest with
        | some (letter, rest) => go letter rest
        | none =>
            match skipBlanks rest with
            | '\n' :: rest =>
                if quoting.manyLines then
                  let next := rest.dropWhile fun character => isBlank character || character == '\n'
                  stringRest? quoting fuel read next
                else none
            | _ => none
      else if isText character || (character == '\n' && quoting.manyLines) then go character rest
      else none

/-- A string that begins with a quotation mark. A line feed right after three marks does not
belong to it. -/
def string? (manyLines : Bool) (text : List Char) : Option (String × List Char) := do
  let mark ← text.head?
  let quoting (manyLines : Bool) : Quoting := { mark, escapes := mark == '"', manyLines }
  if mark != '"' && mark != '\'' then none
  else if manyLines && text.take 3 == [mark, mark, mark] then
    let rest := text.drop 3
    let first := if rest.head? == some '\n' then rest.drop 1 else rest
    stringRest? (quoting true) text.length [] first
  else stringRest? (quoting false) text.length [] (text.drop 1)

/-- Digits in which single `_` may stand between two of them. -/
def digitsOf? (isDigit : Char → Bool) : (afterDigit : Bool) → List Char → Option (List Char)
  | afterDigit, [] => if afterDigit then some [] else none
  | afterDigit, character :: rest =>
      if isDigit character then (digitsOf? isDigit true rest).map (character :: ·)
      else if character == '_' && afterDigit then digitsOf? isDigit false rest
      else none

def numberIn (base : Nat) (digits : List Char) : Nat :=
  digits.foldl (fun number digit => base * number + (Text.hexDigit? digit).getD 0) 0

def word? (value : Int) : Option Value :=
  if Number.FitsSigned value then some (Value.ofInt value) else none

def wholeDigits? (text : List Char) : Option (List Char) := do
  let digits ← digitsOf? Char.isDigit false text
  match digits with
  | '0' :: _ :: _ => none
  | digits => some digits

def exponent? (text : List Char) : Option Int := do
  let (negative, digits) := match text with
    | '-' :: rest => (true, rest)
    | '+' :: rest => (false, rest)
    | rest => (false, rest)
  let size := numberIn 10 (← digitsOf? Char.isDigit false digits)
  return if negative then -(size : Int) else size

/-- A number without its sign: an integer, or a float with a fraction, an exponent or both. -/
def unsigned? (negative : Bool) (text : List Char) : Option Value := do
  let isMark (character : Char) : Bool := character == '.' || character == 'e' || character == 'E'
  let wholeText := text.takeWhile fun character => !isMark character
  let whole ← wholeDigits? wholeText
  let rest := text.drop wholeText.length
  let isPower (character : Char) : Bool := character == 'e' || character == 'E'
  let (fraction, rest) ← match rest with
    | '.' :: rest => do
        let fractionText := rest.takeWhile fun character => !isPower character
        some (← digitsOf? Char.isDigit false fractionText, rest.drop fractionText.length)
    | rest => some ([], rest)
  match fraction, rest with
  | [], [] =>
      let size := numberIn 10 whole
      word? (if negative then -(size : Int) else size)
  | fraction, rest =>
      let exponent ← match rest with
        | _ :: power => exponent? power
        | [] => some 0
      let digits := numberIn 10 (whole ++ fraction)
      let float ← Binary64.ofDecimal? negative digits (exponent - fraction.length)
      return .number (.float float)

def based? (base : Nat) (text : List Char) : Option Value := do
  let isDigit (character : Char) : Bool := (Text.hexDigit? character).any (· < base)
  word? (numberIn base (← digitsOf? isDigit false text))

/-- The value of a word that is no string. Infinities and what is not a number are null. -/
def plainValue? (text : List Char) : Option Value :=
  match text with
  | ['t', 'r', 'u', 'e'] => some (.bool true)
  | ['f', 'a', 'l', 's', 'e'] => some (.bool false)
  | '0' :: 'x' :: rest => based? 16 rest
  | '0' :: 'o' :: rest => based? 8 rest
  | '0' :: 'b' :: rest => based? 2 rest
  | sign :: rest =>
      let size := if sign == '+' || sign == '-' then rest else text
      if size == ['i', 'n', 'f'] || size == ['n', 'a', 'n'] then some .null
      else unsigned? (sign == '-') size
  | [] => none

end Reshape.Toml
