import Reshape.Decimal.Shortest
/-!
Numbers of a document. A whole number that fits 64 bits, with or without a sign, is
kept exactly; every other number is a finite binary64. The two kinds never compare
equal, so `1` and `1.0` are different numbers.
-/

namespace Reshape

/-- The whole numbers of a signed or an unsigned 64-bit word. -/
def Number.FitsWord (value : Int) : Prop :=
  -9223372036854775808 ≤ value ∧ value ≤ 18446744073709551615

def Number.FitsSigned (value : Int) : Prop :=
  -9223372036854775808 ≤ value ∧ value ≤ 9223372036854775807

instance (value : Int) : Decidable (Number.FitsWord value) :=
  inferInstanceAs (Decidable (_ ∧ _))

instance (value : Int) : Decidable (Number.FitsSigned value) :=
  inferInstanceAs (Decidable (_ ∧ _))

inductive Number where
  | int (value : Int) (fits : Number.FitsWord value := by decide)
  | float (value : Binary64)
deriving DecidableEq

namespace Number

/-- Numbers of one kind are compared by value, which identifies the two zeros of binary64. -/
def same : Number → Number → Bool
  | .int left _, .int right _ => left == right
  | .float left, .float right => left.same right
  | _, _ => false

def text : Number → String
  | .int value _ => toString value
  | .float value => value.text

def textWith (raisedMark : String) : Number → String
  | .int value _ => toString value
  | .float value => value.textWith raisedMark

def toSignedWord? : Number → Option Int
  | .int value _ => if FitsSigned value then some value else none
  | .float _ => none

/-- The nearest binary64, which for integers of a word is always finite. -/
def toBinary64 : Number → Binary64
  | .int value _ => (Binary64.ofInt? value).getD .zero
  | .float value => value

/-- The number that an integer's digits denote: exact when it fits a word, otherwise the
nearest binary64, and nothing beyond that format's range. -/
def ofInt? (value : Int) : Option Number :=
  if fits : FitsWord value then some (.int value fits) else (Binary64.ofInt? value).map .float

end Number

end Reshape
