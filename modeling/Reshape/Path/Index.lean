/-!
Keys as list positions. A key is an index when it consists of decimal digits, possibly
after a plus sign, that denote a number of at most 64 bits. A leading zero is allowed
only in `0` itself or behind the sign.
-/

namespace Reshape

def indexOfDigits? (digits : List Char) : Option Nat :=
  if digits.isEmpty || !digits.all Char.isDigit then none
  else
    let index := Nat.ofDigitChars 10 digits 0
    if index < UInt64.size then some index else none

def index? (key : String) : Option Nat :=
  match key.toList with
  | [] => none
  | '0' :: _ :: _ => none
  | '+' :: digits => indexOfDigits? digits
  | digits => indexOfDigits? digits

end Reshape
