import Reshape.Decimal.Shortest
import Reshape.Proofs.Decimal.Rounding

namespace Reshape.Binary64

section Quotient

variable {numerator denominator nearest scale units : Nat}

theorem nearestQuotient_eq (positive : 0 < denominator)
    (lower : 2 * (nearest * denominator) ≤ 2 * numerator + denominator)
    (upper : 2 * numerator ≤ 2 * (nearest * denominator) + denominator)
    (ties : 2 * (nearest * denominator) = 2 * numerator + denominator ∨
      2 * numerator = 2 * (nearest * denominator) + denominator → nearest % 2 = 0) :
    nearestQuotient numerator denominator = nearest := by
  have division := Nat.div_add_mod' numerator denominator
  have rest := Nat.mod_lt numerator positive
  unfold nearestQuotient
  dsimp only
  generalize numerator / denominator = whole at *
  generalize numerator % denominator = left at *
  have near : nearest = whole ∨ nearest = whole + 1 := by
    rcases Nat.lt_or_ge nearest whole with below | atLeast
    · have products : (nearest + 1) * denominator ≤ whole * denominator :=
        Nat.mul_le_mul_right _ below
      rw [Nat.add_mul] at products
      omega
    · rcases Nat.lt_or_ge (whole + 1) nearest with above | atMost
      · have products : (whole + 2) * denominator ≤ nearest * denominator :=
          Nat.mul_le_mul_right _ above
        rw [Nat.add_mul] at products
        omega
      · omega
  simp only [Bool.or_eq_true, Bool.and_eq_true, decide_eq_true_eq, beq_iff_eq]
  rcases near with rfl | rfl
  · split <;> omega
  · rw [Nat.add_mul, Nat.one_mul] at lower upper ties
    split <;> omega

/-- The rank of the binary64 number that a quotient is rounded to. -/
def quotientRank (units denominator : Nat) : Nat :=
  roundingScale (units / denominator) * perPower +
    nearestQuotient units (denominator <<< roundingScale (units / denominator))

theorem ofQuotient?_eq (negative : Bool) (numerator denominator : Nat) :
    ofQuotient? negative numerator denominator =
      ofRank? negative (quotientRank (numerator <<< 1074) denominator) := rfl

theorem roundingScale_eq (lower : scale = 0 ∨ perPower <<< scale ≤ units)
    (upper : units < (2 * perPower) <<< scale) : roundingScale units = scale := by
  have power : perPower = 2 ^ 52 := rfl
  unfold roundingScale
  rcases Nat.eq_zero_or_pos scale with rfl | positive
  · exact if_pos upper
  · have least : perPower <<< scale ≤ units := lower.resolve_left (by omega)
    rw [Nat.shiftLeft_eq, power, ← Nat.pow_add] at least
    rw [Nat.shiftLeft_eq, power, ← Nat.pow_succ', ← Nat.pow_add] at upper
    have double : 2 ^ 53 ≤ 2 ^ (52 + scale) := Nat.pow_le_pow_right (by decide) (by omega)
    have many : units ≠ 0 := by omega
    have above := (Nat.log2_lt many).mpr upper
    have below := (Nat.le_log2 many).mpr least
    rw [if_neg (by omega)]
    omega

theorem shiftLeft_mul (left right shift : Nat) :
    left <<< shift * right = left * right <<< shift := by
  simp only [Nat.shiftLeft_eq, Nat.mul_assoc, Nat.mul_comm right]

theorem quotientRank_eq (positive : 0 < denominator)
    (range : scale = 0 ∨ perPower * denominator <<< scale ≤ units)
    (limit : units < 2 * perPower * denominator <<< scale)
    (lower : 2 * (nearest * denominator <<< scale) ≤ 2 * units + denominator <<< scale)
    (upper : 2 * units ≤ 2 * (nearest * denominator <<< scale) + denominator <<< scale)
    (ties : 2 * (nearest * denominator <<< scale) = 2 * units + denominator <<< scale ∨
      2 * units = 2 * (nearest * denominator <<< scale) + denominator <<< scale →
        nearest % 2 = 0) :
    quotientRank units denominator = scale * perPower + nearest := by
  have scaled : roundingScale (units / denominator) = scale := by
    apply roundingScale_eq
    · refine range.imp_right fun least => ?_
      rwa [Nat.le_div_iff_mul_le positive, shiftLeft_mul]
    · rwa [Nat.div_lt_iff_lt_mul positive, shiftLeft_mul]
  have shifted : 0 < denominator <<< scale := by
    rw [Nat.shiftLeft_eq]
    exact Nat.mul_pos positive (Nat.two_pow_pos scale)
  rw [quotientRank, scaled, nearestQuotient_eq shifted lower upper ties]

end Quotient

section Interval

variable {number : Binary64} {units denominator : Nat}

theorem rank_eq (number : Binary64) : number.rank = number.scale * perPower + number.significand := by
  have division := Nat.div_add_mod' number.rank perPower
  have positive : 0 < perPower := by decide
  unfold scale significand
  split
  · rename_i small
    rw [Nat.div_eq_of_lt small]
    omega
  · rename_i large
    have scaled : 1 ≤ number.rank / perPower := (Nat.one_le_div_iff positive).mpr (by omega)
    rw [Nat.sub_mul, Nat.one_mul]
    have products : 1 * perPower ≤ number.rank / perPower * perPower :=
      Nat.mul_le_mul_right _ scaled
    omega

theorem significand_lt (number : Binary64) : number.significand < 2 * perPower := by
  have rest := Nat.mod_lt number.rank (show 0 < perPower by decide)
  unfold significand
  split <;> omega

theorem le_significand (scaled : number.scale ≠ 0) : perPower ≤ number.significand := by
  unfold significand
  split
  · rename_i small
    rw [scale, Nat.div_eq_of_lt small] at scaled
    contradiction
  · omega

theorem scale_le (number : Binary64) : number.scale ≤ 2045 := by
  have limit : number.rank < 2047 * perPower := number.rank_lt
  have quotient : number.rank / perPower < 2047 := (Nat.div_lt_iff_lt_mul (by decide)).mpr limit
  unfold scale
  omega

theorem atPower_iff : (number.rank % perPower == 0 && number.rank / perPower > 1) = true ↔
    number.scale ≠ 0 ∧ number.significand = perPower := by
  have positive : 0 < perPower := by decide
  simp only [Bool.and_eq_true, beq_iff_eq, decide_eq_true_eq]
  unfold scale significand
  constructor
  · rintro ⟨multiple, power⟩
    have large : ¬ number.rank < perPower := by
      intro small
      rw [Nat.div_eq_of_lt small] at power
      contradiction
    rw [if_neg large]
    omega
  · rintro ⟨scaled, least⟩
    have large : ¬ number.rank < perPower := by
      intro small
      rw [Nat.div_eq_of_lt small] at scaled
      contradiction
    rw [if_neg large] at least
    omega

theorem significand_pos (nonzero : number.rank ≠ 0) : 0 < number.significand := by
  have positive : 0 < perPower := by decide
  unfold significand
  split <;> omega

/-- How far the interval of a number reaches down, in quarters of its unit. -/
def reachDown (number : Binary64) : Nat :=
  if number.scale ≠ 0 ∧ number.significand = perPower then 1 else 2

theorem unit_mul (scale denominator : Nat) : 1 <<< scale * denominator = denominator <<< scale := by
  rw [shiftLeft_mul, Nat.one_mul]

theorem middle_mul (number : Binary64) (denominator : Nat) :
    number.rounding.middle * denominator =
      4 * (number.significand * denominator <<< number.scale) := by
  change 4 * number.significand * 1 <<< number.scale * denominator = _
  rw [Nat.mul_assoc, unit_mul, Nat.mul_assoc]

theorem high_mul (number : Binary64) (denominator : Nat) :
    number.rounding.high * denominator =
      4 * (number.significand * denominator <<< number.scale) +
        2 * denominator <<< number.scale := by
  change (number.rounding.middle + 2 * 1 <<< number.scale) * denominator = _
  rw [Nat.add_mul, middle_mul, Nat.mul_assoc, unit_mul]

theorem low_mul (nonzero : number.rank ≠ 0) (denominator : Nat) :
    number.rounding.low * denominator + number.reachDown * denominator <<< number.scale =
      4 * (number.significand * denominator <<< number.scale) := by
  have reach : number.rounding.low + number.reachDown * 1 <<< number.scale =
      number.rounding.middle := by
    have least := Nat.mul_le_mul_right (1 <<< number.scale) (significand_pos nonzero)
    have middle : number.rounding.middle = 4 * (number.significand * 1 <<< number.scale) := by
      simpa using middle_mul number 1
    have low : number.rounding.low = number.rounding.middle -
        (if number.rank % perPower == 0 && number.rank / perPower > 1 then 1 <<< number.scale
          else 2 * 1 <<< number.scale) := rfl
    rw [low, middle, reachDown]
    split
    · rename_i power
      rw [if_pos (atPower_iff.mp power)]
      omega
    · rename_i power
      rw [if_neg (mt atPower_iff.mpr power)]
      omega
  rw [← middle_mul, ← reach, Nat.add_mul, Nat.mul_assoc, unit_mul]

/-- What is a quotient of quarters of a unit lies in the interval of some reals. -/
def Rounding.Covers (reals : Rounding) (quarters denominator : Nat) : Prop :=
  if reals.closed then
    reals.low * denominator ≤ quarters ∧ quarters ≤ reals.high * denominator
  else reals.low * denominator < quarters ∧ quarters < reals.high * denominator

/-- Just below a power of two a quotient is in the range of the lesser scale, and is carried over
from there if it is at most a quarter of a unit away. -/
theorem quotientRank_carried (positive : 0 < denominator) {lesser : Nat}
    (near : 4 * (perPower * denominator <<< (lesser + 1)) ≤
      4 * units + denominator <<< (lesser + 1))
    (below : units < perPower * denominator <<< (lesser + 1)) :
    quotientRank units denominator = lesser * perPower + 2 * perPower := by
  have half : denominator <<< (lesser + 1) = 2 * denominator <<< lesser := Nat.shiftLeft_succ ..
  have doubled : perPower * denominator <<< (lesser + 1) =
      2 * (perPower * denominator <<< lesser) := by rw [half, Nat.mul_left_comm]
  have carried : 2 * perPower * denominator <<< lesser =
      2 * (perPower * denominator <<< lesser) := Nat.mul_assoc _ _ _
  have several : denominator <<< lesser ≤ perPower * denominator <<< lesser :=
    Nat.le_mul_of_pos_left _ (by decide)
  rw [doubled] at near below
  rw [half] at near
  apply quotientRank_eq positive
  · exact .inr (by omega)
  · omega
  · omega
  · omega
  · exact fun _ => by decide

/-- All of the interval of a number is rounded to it. Only just below a power of two the quotient
is in the range of a lesser scale, and rounding carries it over. -/
theorem quotientRank_of_covers (nonzero : number.rank ≠ 0) (positive : 0 < denominator)
    (covers : number.rounding.Covers (4 * units) denominator) :
    quotientRank units denominator = number.rank := by
  have low := low_mul nonzero denominator
  have high := high_mul number denominator
  have bound := significand_lt number
  have shifted : 0 < denominator <<< number.scale := by
    rw [Nat.shiftLeft_eq]
    exact Nat.mul_pos positive (Nat.two_pow_pos _)
  have closed : number.rounding.closed = (number.significand % 2 == 0) := rfl
  rw [Rounding.Covers, closed] at covers
  have limit : (number.significand + 1) * denominator <<< number.scale ≤
      2 * perPower * denominator <<< number.scale := Nat.mul_le_mul_right _ bound
  rw [Nat.add_mul] at limit
  by_cases power : number.scale ≠ 0 ∧ number.significand = perPower
  · obtain ⟨scaled, least⟩ := power
    have even : perPower % 2 = 0 := by decide
    have reach : number.reachDown = 1 := if_pos ⟨scaled, least⟩
    rw [reach, least] at low
    rw [least] at high limit covers
    rw [even] at covers
    simp only [beq_self_eq_true, if_true] at covers
    rw [rank_eq, least]
    rcases Nat.lt_or_ge units (perPower * denominator <<< number.scale) with below | above
    · obtain ⟨lesser, same⟩ := Nat.exists_eq_succ_of_ne_zero scaled
      rw [same, Nat.succ_eq_add_one] at low below ⊢
      rw [quotientRank_carried positive (by omega) below, Nat.succ_mul lesser]
      omega
    · exact quotientRank_eq positive (.inr above) (by omega) (by omega) (by omega) (fun _ => even)
  · have reach : number.reachDown = 2 := if_neg power
    rw [reach] at low
    have range : number.scale = 0 ∨ perPower * denominator <<< number.scale ≤ units := by
      rcases Nat.eq_zero_or_pos number.scale with zero | scaled
      · exact .inl zero
      · have least := le_significand (Nat.ne_of_gt scaled)
        have more : (perPower + 1) * denominator <<< number.scale ≤
            number.significand * denominator <<< number.scale :=
          Nat.mul_le_mul_right _ (Nat.lt_of_le_of_ne least fun same =>
            power ⟨Nat.ne_of_gt scaled, same.symm⟩)
        rw [Nat.add_mul] at more
        split at covers <;> exact .inr (by omega)
    rw [rank_eq]
    by_cases even : number.significand % 2 = 0
    · rw [even] at covers
      simp only [beq_self_eq_true, if_true] at covers
      exact quotientRank_eq positive range (by omega) (by omega) (by omega) (fun _ => even)
    · rw [if_neg (by simpa using even)] at covers
      exact quotientRank_eq positive range (by omega) (by omega) (by omega) (by omega)

end Interval

end Reshape.Binary64
