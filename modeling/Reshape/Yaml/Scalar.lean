import Reshape.Text.Hex
import Reshape.Value.Basic

namespace Reshape.Yaml

inductive Meaning where
  | null
  | bool (value : Bool)
  | int (value : Int)
  /-- An integer beyond 64 bits but not beyond 128. -/
  | wideInt
  /-- A float; none for an infinity and for what is not a number. -/
  | float (value : Option Binary64)
  | text

/-- Digits with a zero in front, perhaps after a sign, are not a number. -/
def hasLeadingZero (text : List Char) : Bool :=
  let digits := match text with
    | '-' :: rest => rest
    | '+' :: rest => rest
    | text => text
  match digits with
  | '0' :: _ :: _ => digits.all Char.isDigit
  | _ => false

def digit? (base : Nat) (character : Char) : Option Nat :=
  (Text.hexDigit? character).filter (· < base)

def digits? (base : Nat) : List Char → Option Nat
  | [] => none
  | text => text.foldlM (fun number character => (digit? base character).map (base * number + ·)) 0

def magnitude? (text : List Char) : Option Nat :=
  match text with
  | '0' :: 'x' :: rest => digits? 16 rest
  | '0' :: 'o' :: rest => digits? 8 rest
  | '0' :: 'b' :: rest => digits? 2 rest
  | text => digits? 10 text

def integer? (text : List Char) : Option Int :=
  if hasLeadingZero text then none
  else
    match text with
    | '+' :: rest => (magnitude? rest).map fun size => size
    | '-' :: rest => (magnitude? rest).map fun size => -(size : Int)
    | text => (magnitude? text).map fun size => size

def exponent? : List Char → Option Int
  | [] => some 0
  | mark :: rest =>
      if mark == 'e' || mark == 'E' then
        match rest with
        | '-' :: digits => (digits? 10 digits).map fun size => -(size : Int)
        | '+' :: digits => (digits? 10 digits).map fun size => size
        | digits => (digits? 10 digits).map fun size => size
      else none

/-- Digits with at most one point among or beside them, and maybe an exponent. -/
def decimal? (negative : Bool) (text : List Char) : Option Binary64 := do
  let whole := text.takeWhile Char.isDigit
  let afterWhole := text.dropWhile Char.isDigit
  let (fraction, rest) := match afterWhole with
    | '.' :: rest => (rest.takeWhile Char.isDigit, rest.dropWhile Char.isDigit)
    | rest => ([], rest)
  let exponent ← exponent? rest
  let digits := whole ++ fraction
  if digits.isEmpty then none
  else Binary64.ofDecimal? negative (Nat.ofDigitChars 10 digits 0) (exponent - fraction.length)

def finite? (text : List Char) : Option Binary64 :=
  match text with
  | '+' :: rest => decimal? false rest
  | '-' :: rest => decimal? true rest
  | text => decimal? false text

def nonFinite : List String :=
  [".inf", ".Inf", ".INF", "+.inf", "+.Inf", "+.INF", "-.inf", "-.Inf", "-.INF", ".nan", ".NaN",
    ".NAN"]

def isNull (text : String) : Bool := ["", "null", "Null", "NULL", "~"].contains text

def bool? (text : String) : Option Bool :=
  if ["true", "True", "TRUE"].contains text then some true
  else if ["false", "False", "FALSE"].contains text then some false
  else none

/-- An integer that fits 64 bits, or one that at least fits 128; larger ones are floats. -/
def integerMeaning? (value : Int) : Option Meaning :=
  if Number.FitsWord value then some (.int value)
  else if -170141183460469231731687303715884105728 ≤ value &&
      value ≤ 340282366920938463463374607431768211455 then some .wideInt
  else none

def floatMeaning (text : String) : Meaning :=
  if hasLeadingZero text.toList then .text
  else if nonFinite.contains text then .float none
  else
    match finite? text.toList with
    | some value => .float (some value)
    | none => .text

def Meaning.ofPlain (text : String) : Meaning :=
  if isNull text then .null
  else
    match bool? text, (integer? text.toList).bind integerMeaning? with
    | some value, _ => .bool value
    | none, some meaning => meaning
    | none, none => floatMeaning text

/-- The value of a plain scalar. Integers of more than 64 bits have none. -/
def plainValue? (text : String) : Option Value :=
  match Meaning.ofPlain text with
  | .null => some .null
  | .bool value => some (.bool value)
  | .int value => some (Value.ofInt value)
  | .wideInt => none
  | .float value => some (Value.ofNumber? (value.map .float))
  | .text => some (.string text)

end Reshape.Yaml
