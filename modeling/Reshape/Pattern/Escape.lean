import Reshape.Pattern.Flags
import Reshape.Text.Blank
import Reshape.Text.Hex

namespace Reshape.Pattern

open Text (CharSet)

def skipComments : (inComment : Bool) → List Char → List Char
  | _, [] => []
  | true, character :: rest => skipComments (character != '\n') rest
  | false, character :: rest =>
      if Text.isBlank character then skipComments false rest
      else if character == '#' then skipComments true rest
      else character :: rest

def Flags.skip (flags : Flags) (text : List Char) : List Char :=
  if flags.extended then skipComments false text else text

def collect (flags : Flags) (accepts : Char → Bool) :
    (most : Nat) → (text : List Char) → List Char × List Char
  | 0, text => ([], text)
  | _ + 1, [] => ([], [])
  | most + 1, character :: rest =>
      if accepts character then
        let (more, rest) := collect flags accepts most (flags.skip rest)
        (character :: more, rest)
      else ([], character :: rest)

inductive Atom where
  | letter (letter : Char)
  | set (set : CharSet)
  | place (place : Place)

def charOfNumber? (number : Nat) : Option Char :=
  if number.isValidChar then some (Char.ofNat number) else none

/-- The letter of a number that is written with `count` digits, or in braces with any. Two
digits give a byte, which without Unicode must be one of ASCII. -/
def hexEscape? (flags : Flags) (count : Nat) (text : List Char) : Option (Atom × List Char) :=
  match flags.skip text with
  | '\x7b' :: rest => do
      let (digits, rest) := collect flags (· != '\x7d') rest.length (flags.skip rest)
      match digits, rest with
      | _ :: _, _ :: rest => return (.letter (← charOfNumber? (← Text.hexNumber? digits)), rest)
      | _, _ => none
  | text => do
      let (digits, rest) := collect flags (fun digit => (Text.hexDigit? digit).isSome) count text
      let letter ← if digits.length = count then charOfNumber? (← Text.hexNumber? digits) else none
      if count = 2 && !flags.unicode && letter.val ≥ 128 then none
      else return (.letter letter, rest)

def cutAt? (separator : List Char) : List Char → Option (List Char × List Char)
  | [] => none
  | character :: rest =>
      if separator.isPrefixOf (character :: rest) then
        some ([], (character :: rest).drop separator.length)
      else (cutAt? separator rest).map fun (front, rest) => (character :: front, rest)

/-- The characters of a property, such as `Lu`, `Greek` or `script=Greek`; and whether they
are those that do not have it, as in `script!=Greek`. -/
def namedProperty? (name : List Char) : Option (CharSet × Bool) :=
  let valued (parts : List Char × List Char) (negated : Bool) :=
    (Text.propertyValueSet? (String.ofList parts.1) (String.ofList parts.2)).map (·, negated)
  match cutAt? ['!', '='] name, cutAt? [':'] name, cutAt? ['='] name with
  | some parts, _, _ => valued parts true
  | none, some parts, _ => valued parts false
  | none, none, some parts => valued parts false
  | none, none, none => (Text.propertySet? (String.ofList name)).map (·, false)

def propertyEscape? (flags : Flags) (negated : Bool) (text : List Char) :
    Option (Atom × List Char) := do
  let (name, rest) ← match flags.skip text with
    | [] => none
    | '\x7b' :: rest =>
        let (name, rest) := collect flags (· != '\x7d') rest.length (flags.skip rest)
        match rest with
        | _ :: rest => some (name, rest)
        | [] => none
    | letter :: rest => if letter == '\\' then none else some ([letter], rest)
  let (set, differs) ← if flags.unicode then namedProperty? name else none
  return (.set (← flags.negateIf? (negated != differs) (flags.closeCase set)), rest)

/-- After `\b` a name in braces gives other places; braces that hold anything else belong
to a repetition. -/
def edgeEscape? (flags : Flags) (text : List Char) : Option (Atom × List Char) :=
  let edge := Atom.place (.wordEdge flags.unicode)
  let inName (character : Char) : Bool := character.isAlpha || character == '-'
  match text with
  | '\x7b' :: rest =>
      match flags.skip rest with
      | [] => none
      | first :: more =>
          if !inName first then some (edge, text)
          else
            let (name, rest) := collect flags inName (first :: more).length (first :: more)
            match rest with
            | '\x7d' :: rest =>
                match String.ofList name with
                | "start" => some (.place (.wordStart flags.unicode), rest)
                | "end" => some (.place (.wordEnd flags.unicode), rest)
                | "start-half" => some (.place (.noWordBefore flags.unicode), rest)
                | "end-half" => some (.place (.noWordAfter flags.unicode), rest)
                | _ => none
            | _ => none
  | text => some (edge, text)

def mayBeEscaped (character : Char) : Bool :=
  character.val < 128 && !character.isAlphanum && character != '<' && character != '>'

def escape? (flags : Flags) : (text : List Char) → Option (Atom × List Char)
  | [] => none
  | mark :: rest =>
      let negatable (set : CharSet) := do
        return (.set (← flags.negateIf? mark.isUpper set), rest)
      match mark with
      | 'x' => hexEscape? flags 2 rest
      | 'u' => hexEscape? flags 4 rest
      | 'U' => hexEscape? flags 8 rest
      | 'p' | 'P' => propertyEscape? flags (mark == 'P') rest
      | 'd' | 'D' => negatable flags.digits
      | 's' | 'S' => negatable flags.blanks
      | 'w' | 'W' => negatable flags.words
      | 'a' => some (.letter '\x07', rest)
      | 'f' => some (.letter '\x0c', rest)
      | 't' => some (.letter '\t', rest)
      | 'n' => some (.letter '\n', rest)
      | 'r' => some (.letter '\r', rest)
      | 'v' => some (.letter '\x0b', rest)
      | 'A' => some (.place .textStart, rest)
      | 'z' => some (.place .textEnd, rest)
      | 'b' => edgeEscape? flags rest
      | 'B' => some (.place (.noWordEdge flags.unicode), rest)
      | '<' => some (.place (.wordStart flags.unicode), rest)
      | '>' => some (.place (.wordEnd flags.unicode), rest)
      | mark => if mayBeEscaped mark then some (.letter mark, rest) else none

end Reshape.Pattern
