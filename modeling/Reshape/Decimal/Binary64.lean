/-!
Finite binary64 numbers. A number is a sign and a rank, where the rank counts the
non-negative numbers of the format in increasing order: rank 0 is zero, rank 1 the
least subnormal, and the bit pattern of a positive number is its rank. Comparing is
therefore comparing signed ranks, and rounding is done on natural numbers alone.
-/

namespace Reshape

def Binary64.perPower : Nat := 4503599627370496

/-- The rank at which infinity would stand. -/
def Binary64.rankLimit : Nat := 2047 * perPower

def Binary64.signBit : Nat := 2048 * perPower

/-- A finite number of the binary64 format; zero comes with both signs. -/
structure Binary64 where
  negative : Bool
  rank : Nat
  rank_lt : rank < Binary64.rankLimit := by decide
deriving DecidableEq

namespace Binary64

def zero : Binary64 := { negative := false, rank := 0 }

instance : Inhabited Binary64 := ⟨zero⟩

/-- The number of this sign and rank, unless the rank is that of infinity or above. -/
def ofRank? (negative : Bool) (rank : Nat) : Option Binary64 :=
  if bound : rank < rankLimit then some { negative, rank, rank_lt := bound } else none

def position (number : Binary64) : Int :=
  if number.negative then -(number.rank : Int) else number.rank

def same (left right : Binary64) : Bool :=
  left.position == right.position

/-- The magnitude is `significand * 2 ^ scale` units of `2 ^ -1074`. -/
def significand (number : Binary64) : Nat :=
  if number.rank < perPower then number.rank else perPower + number.rank % perPower

def scale (number : Binary64) : Nat :=
  number.rank / perPower - 1

def nearestQuotient (numerator denominator : Nat) : Nat :=
  let whole := numerator / denominator
  let rest := numerator % denominator
  if 2 * rest < denominator || (2 * rest == denominator && whole % 2 == 0) then whole
  else whole + 1

/-- The number nearest to a quotient, or nothing when that would be infinite. The
significand keeps 53 bits; since ranks follow the order, a carry out of it moves on
to the next scale by itself. -/
def ofQuotient? (negative : Bool) (numerator denominator : Nat) : Option Binary64 :=
  let units := numerator <<< 1074
  let whole := units / denominator
  let scale := if whole < 2 * perPower then 0 else Nat.log2 whole - 52
  ofRank? negative (scale * perPower + nearestQuotient units (denominator <<< scale))

def ofInt? (value : Int) : Option Binary64 :=
  ofQuotient? (value < 0) value.natAbs 1

/-- The number nearest to `digits * 10 ^ exponent`. An exponent far outside the range
of the format is decided without computing the power. -/
def ofDecimal? (negative : Bool) (digits : Nat) (exponent : Int) : Option Binary64 :=
  let order := exponent + (Nat.toDigits 10 digits).length
  if digits == 0 || order < -330 then ofRank? negative 0
  else if order > 310 then none
  else ofQuotient? negative (digits * Nat.pow 10 exponent.toNat) (Nat.pow 10 (-exponent).toNat)

def toFloat (number : Binary64) : Float :=
  Float.ofBits (UInt64.ofNat (if number.negative then signBit + number.rank else number.rank))

def ofFloat? (value : Float) : Option Binary64 :=
  let bits := value.toBits.toNat
  ofRank? (signBit ≤ bits) (bits % signBit)

end Binary64

end Reshape
