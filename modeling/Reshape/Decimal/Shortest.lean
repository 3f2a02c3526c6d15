import Reshape.Decimal.Binary64
/-!
The shortest decimal text of a binary64 number. The reals that round to a number form
an interval. On the decimal grids of one digit, two digits and so on the two neighbours
of the number are tried; the first grid with a neighbour in the interval wins, of two
such neighbours the nearer, and a tie goes to the even digit.
-/

namespace Reshape.Binary64

/-- The reals that round to a number, in units of `2 ^ -1076`. The end points belong to
it when the significand is even. -/
structure Rounding where
  low : Nat
  middle : Nat
  high : Nat
  closed : Bool

/-- Below a power of two the neighbouring number is half as far as above it. -/
def rounding (number : Binary64) : Rounding :=
  let unit := 1 <<< number.scale
  let middle := 4 * number.significand * unit
  let atPower := number.rank % perPower == 0 && number.rank / perPower > 1
  let below := if atPower then unit else 2 * unit
  { low := middle - below
    middle
    high := middle + 2 * unit
    closed := number.significand % 2 == 0 }

def Rounding.onGrid? (reals : Rounding) (exponent : Int) : Option Nat :=
  let up := Nat.pow 10 (-exponent).toNat
  let cell := Nat.pow 10 exponent.toNat <<< 1076
  let middle := reals.middle * up
  let inside (digits : Nat) : Bool :=
    if reals.closed then reals.low * up ≤ digits * cell && digits * cell ≤ reals.high * up
    else reals.low * up < digits * cell && digits * cell < reals.high * up
  let lower := middle / cell
  let toLower := middle - lower * cell
  let toUpper := (lower + 1) * cell - middle
  match inside lower, inside (lower + 1) with
  | true, true =>
      let downward := toLower < toUpper || (toLower == toUpper && lower % 2 == 0)
      some (if downward then lower else lower + 1)
  | true, false => some lower
  | false, true => some (lower + 1)
  | false, false => none

def leadingExponent (reals : Rounding) : Int :=
  (Nat.toDigits 10 ((reals.middle * Nat.pow 10 330) >>> 1076)).length - 331

/-- The fewest digits that read back as the number, with the exponent of the last one.
Seventeen digits always suffice. -/
def shortestDigits (number : Binary64) : Nat × Int :=
  let reals := number.rounding
  let leading := leadingExponent reals
  let found := (List.range 17).findSome? fun (count : Nat) =>
    (reals.onGrid? (leading - count)).map fun digits => (digits, leading - (count : Int))
  found.getD (0, 0)

def dropTrailingZeros : List Char → Int → List Char × Int
  | [], exponent => ([], exponent)
  | digit :: rest, exponent =>
      match dropTrailingZeros rest exponent with
      | ([], raised) => if digit == '0' then ([], raised + 1) else ([digit], raised)
      | (kept, raised) => (digit :: kept, raised)

/-- How digits followed by a power of ten are written: positionally while the exponent
of the leading digit lies between -5 and 15, and with an exponent otherwise. A positive
exponent stands after the given mark. -/
def layout (raisedMark : String) (digits : List Char) (exponent : Int) : String :=
  let leading := exponent + digits.length - 1
  let zeros (count : Int) := List.replicate count.toNat '0'
  if -5 ≤ leading && leading ≤ 15 then
    if exponent ≥ 0 then String.ofList (digits ++ zeros exponent ++ ['.', '0'])
    else if leading ≥ 0 then
      let whole := (leading + 1).toNat
      String.ofList (digits.take whole ++ '.' :: digits.drop whole)
    else String.ofList ('0' :: '.' :: zeros (-leading - 1) ++ digits)
  else
    let fraction := if digits.length > 1 then '.' :: digits.drop 1 else []
    let mark := if leading < 0 then "e-" else raisedMark
    String.ofList (digits.take 1 ++ fraction) ++ mark ++ toString leading.natAbs

def textWith (raisedMark : String) (number : Binary64) : String :=
  let sign := if number.negative then "-" else ""
  if number.rank == 0 then sign ++ "0.0"
  else
    let (digits, exponent) := number.shortestDigits
    let (kept, raised) := dropTrailingZeros (Nat.toDigits 10 digits) exponent
    sign ++ layout raisedMark kept raised

def text (number : Binary64) : String := number.textWith "e+"

end Reshape.Binary64
