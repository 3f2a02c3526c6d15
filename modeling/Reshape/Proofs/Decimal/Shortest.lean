import Reshape.Proofs.Decimal.Nearest
/-!
The shortest digits of a number. The grid of seventeen digits is finer than the interval of any
number, so that digits are always found; and whatever digits are found there, with any number of
zeros behind them, are read as the number again.
-/

namespace Reshape.Binary64

variable {number : Binary64} {reals : Rounding} {digits : Nat} {exponent : Int}

def tens (count : Nat) : Nat := Nat.pow 10 count

theorem tens_pos (count : Nat) : 0 < tens count := Nat.pow_pos (by decide)

theorem tens_mul_le (first second third fourth : Nat)
    (ordered : first + second ≤ third + fourth) :
    tens first * tens second ≤ tens third * tens fourth := by
  simp only [tens, Nat.pow_eq, ← Nat.pow_add]
  exact Nat.pow_le_pow_right (by decide) ordered

/-- A power of ten in quarters of the least unit, save for what stands below the line of it. -/
def cell (exponent : Int) : Nat := tens exponent.toNat <<< 1076

/-- What stands below the line where a power of ten is written as a fraction. -/
def tensBelow (exponent : Int) : Nat := tens (-exponent).toNat

theorem tensBelow_pos (exponent : Int) : 0 < tensBelow exponent := tens_pos _

theorem cell_eq (exponent : Int) :
    cell exponent = tens exponent.toNat * 1 <<< 1076 :=
  (unit_mul 1076 _).symm.trans (Nat.mul_comm _ _)

theorem cell_pos (exponent : Int) : 0 < cell exponent := by
  rw [cell_eq]
  exact Nat.mul_pos (tens_pos _) (by decide +kernel)

/-- A decimal lies in the interval of some reals. -/
def Rounding.Holds (reals : Rounding) (digits : Nat) (exponent : Int) : Prop :=
  reals.Covers (digits * cell exponent) (tensBelow exponent)

/-- The multiple of a power of ten that is next below the middle. -/
def Rounding.below (reals : Rounding) (exponent : Int) : Nat :=
  reals.middle * tensBelow exponent / cell exponent

theorem Rounding.holds_iff : reals.Holds digits exponent ↔
    (if reals.closed then
        decide (reals.low * tensBelow exponent ≤ digits * cell exponent) &&
          decide (digits * cell exponent ≤ reals.high * tensBelow exponent)
      else
        decide (reals.low * tensBelow exponent < digits * cell exponent) &&
          decide (digits * cell exponent < reals.high * tensBelow exponent)) =
      true := by
  unfold Holds Covers
  split <;> simp

theorem Rounding.onGrid?_cases (reals : Rounding) (exponent : Int) :
    (∃ digits, reals.onGrid? exponent = some digits ∧ reals.Holds digits exponent) ∨
      reals.onGrid? exponent = none ∧ ¬ reals.Holds (reals.below exponent) exponent ∧
        ¬ reals.Holds (reals.below exponent + 1) exponent := by
  unfold onGrid?
  dsimp only
  split
  · rename_i here there
    have lower := holds_iff.mpr here
    have upper := holds_iff.mpr there
    refine .inl ⟨_, rfl, ?_⟩
    split
    · exact lower
    · exact upper
  · rename_i here there
    exact .inl ⟨_, rfl, holds_iff.mpr here⟩
  · rename_i here there
    exact .inl ⟨_, rfl, holds_iff.mpr there⟩
  · rename_i here there
    refine .inr ⟨rfl, fun held => ?_, fun held => ?_⟩
    · exact Bool.false_ne_true (here.symm.trans (holds_iff.mp held))
    · exact Bool.false_ne_true (there.symm.trans (holds_iff.mp held))

theorem Rounding.exists_onGrid? (lower : reals.low ≤ reals.middle) (upper : reals.middle < reals.high)
    (narrow : cell exponent + reals.low * tensBelow exponent <
      reals.high * tensBelow exponent) :
    ∃ digits, reals.onGrid? exponent = some digits := by
  rcases reals.onGrid?_cases exponent with ⟨digits, found, _⟩ | ⟨_, here, there⟩
  · exact ⟨digits, found⟩
  have lows := Nat.mul_le_mul_right (tensBelow exponent) lower
  have highs := Nat.mul_lt_mul_of_pos_right upper (tensBelow_pos exponent)
  have division := Nat.div_add_mod' (reals.middle * tensBelow exponent)
    (cell exponent)
  have rest := Nat.mod_lt (reals.middle * tensBelow exponent) (cell_pos exponent)
  unfold Holds Covers at here there
  rw [Nat.add_mul, Nat.one_mul] at there
  change reals.below exponent * _ + _ = _ at division
  split at here
  · rename_i closed
    rw [if_pos closed] at there
    omega
  · rename_i opened
    rw [if_neg opened] at there
    omega

theorem Rounding.covers_scaled {quarters denominator factor : Nat} (positive : 0 < factor) :
    reals.Covers (quarters * factor) (denominator * factor) ↔ reals.Covers quarters denominator := by
  unfold Covers
  simp only [← Nat.mul_assoc, Nat.mul_le_mul_right_iff positive, Nat.mul_lt_mul_right positive]

theorem Rounding.holds_padded (zeros : Nat) :
    reals.Holds (digits * tens zeros) (exponent - zeros) ↔ reals.Holds digits exponent := by
  have same : tens zeros * cell (exponent - zeros) * tensBelow exponent =
      cell exponent * tensBelow (exponent - zeros) := by
    have powers : tens zeros * tens (exponent - zeros).toNat * tensBelow exponent =
        tens exponent.toNat * tensBelow (exponent - zeros) := by
      simp only [tensBelow, tens, Nat.pow_eq, ← Nat.pow_add]
      congr 1
      omega
    rw [cell_eq, cell_eq, ← Nat.mul_assoc, Nat.mul_right_comm, powers, Nat.mul_right_comm]
  have quarters : digits * tens zeros * cell (exponent - zeros) * tensBelow exponent =
      digits * cell exponent * tensBelow (exponent - zeros) := by
    rw [Nat.mul_assoc digits, Nat.mul_assoc digits, same, Nat.mul_assoc digits]
  unfold Holds
  rw [← covers_scaled (tensBelow_pos exponent), quarters, Nat.mul_comm (tensBelow _),
    covers_scaled (tensBelow_pos _)]

theorem Rounding.Holds.bounds (held : reals.Holds digits exponent) :
    reals.low * tensBelow exponent ≤ digits * cell exponent ∧
      digits * cell exponent ≤ reals.high * tensBelow exponent := by
  unfold Holds Covers at held
  split at held
  · exact held
  · exact ⟨Nat.le_of_lt held.1, Nat.le_of_lt held.2⟩

theorem unit_mono {lesser greater : Nat} (ordered : lesser ≤ greater) :
    1 <<< lesser ≤ 1 <<< greater := by
  rw [Nat.shiftLeft_eq, Nat.shiftLeft_eq, Nat.one_mul, Nat.one_mul]
  exact Nat.pow_le_pow_right (by decide) ordered

theorem high_le (number : Binary64) : number.rounding.high ≤ 1 <<< 2100 := by
  have high := high_mul number 1
  have bound := Nat.mul_le_mul_right (1 <<< number.scale) (significand_lt number)
  have products := Nat.mul_le_mul_left (2 * perPower) (unit_mono (scale_le number))
  have above : number.rounding.high ≤ 4 * (2 * perPower * 1 <<< number.scale) := by
    rw [Nat.succ_mul] at bound
    omega
  calc number.rounding.high ≤ 4 * (2 * perPower * 1 <<< 2045) :=
        Nat.le_trans above (Nat.mul_le_mul_left 4 products)
    _ ≤ 1 <<< 2100 := by decide +kernel

theorem toDigits_bounds {number : Nat} (positive : 0 < number) :
    tens ((Nat.toDigits 10 number).length - 1) ≤ number ∧
      number < tens (Nat.toDigits 10 number).length := by
  have some_digits : 0 < (Nat.toDigits 10 number).length := Nat.length_toDigits_pos
  refine ⟨?_, (Nat.length_toDigits_le_iff (by decide) some_digits).mp (Nat.le_refl _)⟩
  generalize counted : (Nat.toDigits 10 number).length = count at *
  cases count with
  | zero => contradiction
  | succ count =>
      cases count with
      | zero => exact positive
      | succ count =>
          have more : ¬ (Nat.toDigits 10 number).length ≤ count + 1 := by omega
          rw [Nat.length_toDigits_le_iff (by decide) (by omega)] at more
          exact Nat.le_of_not_lt more

theorem shiftRight_eq_div (number shift : Nat) : number >>> shift = number / 1 <<< shift := by
  rw [Nat.shiftRight_eq_div_pow, Nat.shiftLeft_eq, Nat.one_mul]

theorem leadingExponent_eq (reals : Rounding) : leadingExponent reals =
    (Nat.toDigits 10 (reals.middle * tens 330 / 1 <<< 1076)).length - 331 := by
  rw [leadingExponent, tens, shiftRight_eq_div]

theorem reach_bound (number : Binary64) : 4 * number.significand <
    (2 + number.reachDown) * tens 16 := by
  have bound := significand_lt number
  have limit : 4 * (2 * perPower) < 4 * tens 16 := by decide +kernel
  have power : 4 * perPower < 3 * tens 16 := by decide +kernel
  unfold reachDown
  split
  · rename_i least
    rw [least.2]
    exact power
  · omega

section Reading

variable (nonzero : number.rank ≠ 0)
include nonzero

theorem two_le_low : 2 ≤ number.rounding.low := by
  have low := low_mul nonzero 1
  have unit : 1 <<< 0 ≤ 1 <<< number.scale := unit_mono (Nat.zero_le _)
  have several := Nat.mul_le_mul_right (1 <<< number.scale) (significand_pos nonzero)
  unfold reachDown at low
  split at low <;> omega

theorem digits_pos_of_holds (held : number.rounding.Holds digits exponent) : 0 < digits := by
  rcases Nat.eq_zero_or_pos digits with rfl | positive
  · have low := Nat.mul_le_mul_right (tensBelow exponent) (two_le_low nonzero)
    have below := tensBelow_pos exponent
    have bounds := held.bounds.1
    omega
  · exact positive

theorem order_bounds (held : number.rounding.Holds digits exponent) :
    -330 ≤ exponent + (Nat.toDigits 10 digits).length ∧
      exponent + (Nat.toDigits 10 digits).length ≤ 310 := by
  obtain ⟨least, less⟩ := toDigits_bounds (digits_pos_of_holds nonzero held)
  have some_digits : 0 < (Nat.toDigits 10 digits).length := Nat.length_toDigits_pos
  obtain ⟨lower, upper⟩ := held.bounds
  generalize (Nat.toDigits 10 digits).length = count at *
  rw [cell_eq, tensBelow] at lower upper
  constructor
  · apply Int.not_lt.mp
    intro small
    have whole : exponent.toNat = 0 := by omega
    rw [whole, show tens 0 = 1 from rfl, Nat.one_mul] at lower
    have powers := tens_mul_le count 331 0 (-exponent).toNat (by omega)
    rw [show tens 0 = 1 from rfl, Nat.one_mul] at powers
    refine Nat.lt_irrefl (2 * tens (-exponent).toNat) ?_
    calc 2 * tens (-exponent).toNat ≤ number.rounding.low * tens (-exponent).toNat :=
          Nat.mul_le_mul_right _ (two_le_low nonzero)
      _ ≤ digits * 1 <<< 1076 := lower
      _ < tens count * (2 * tens 331) := Nat.mul_lt_mul'' less (by decide +kernel)
      _ = 2 * (tens count * tens 331) := by rw [Nat.mul_left_comm]
      _ ≤ 2 * tens (-exponent).toNat := Nat.mul_le_mul_left 2 powers
  · apply Int.not_lt.mp
    intro large
    have powers := tens_mul_le 310 (-exponent).toNat (count - 1) exponent.toNat (by omega)
    refine Nat.lt_irrefl (1 <<< 2100 * tens (-exponent).toNat) ?_
    calc 1 <<< 2100 * tens (-exponent).toNat < tens 310 * 1 <<< 1076 * tens (-exponent).toNat :=
          Nat.mul_lt_mul_of_pos_right (by decide +kernel) (tensBelow_pos exponent)
      _ = tens 310 * tens (-exponent).toNat * 1 <<< 1076 := Nat.mul_right_comm _ _ _
      _ ≤ tens (count - 1) * tens exponent.toNat * 1 <<< 1076 := Nat.mul_le_mul_right _ powers
      _ = tens (count - 1) * (tens exponent.toNat * 1 <<< 1076) := Nat.mul_assoc _ _ _
      _ ≤ digits * (tens exponent.toNat * 1 <<< 1076) := Nat.mul_le_mul_right _ least
      _ ≤ number.rounding.high * tens (-exponent).toNat := upper
      _ ≤ 1 <<< 2100 * tens (-exponent).toNat := Nat.mul_le_mul_right _ (high_le number)

theorem ofDecimal?_of_holds (held : number.rounding.Holds digits exponent) :
    ofDecimal? number.negative digits exponent = some number := by
  have quarters : digits * cell exponent =
      4 * (digits * tens exponent.toNat) <<< 1074 := by
    rw [cell_eq, ← unit_mul 1074, Nat.mul_comm (1 <<< 1074), ← Nat.mul_assoc,
      Nat.mul_left_comm 4]
    rfl
  have rank : quotientRank ((digits * tens exponent.toNat) <<< 1074)
      (tensBelow exponent) = number.rank := by
    apply quotientRank_of_covers nonzero (tensBelow_pos exponent)
    rwa [← quarters]
  have positive := digits_pos_of_holds nonzero held
  obtain ⟨lower, upper⟩ := order_bounds nonzero held
  unfold ofDecimal?
  dsimp only
  rw [if_neg (by simp; omega), if_neg (by omega), ofQuotient?_eq]
  change ofRank? _ (quotientRank ((digits * tens exponent.toNat) <<< 1074) (tensBelow exponent)) = _
  rw [rank, ofRank?, dif_pos number.rank_lt]

theorem leadingExponent_spec :
    ∃ count : Nat, leadingExponent number.rounding = (count + 1 : Nat) - 331 ∧
      tens count * 1 <<< 1076 ≤ number.rounding.middle * tens 330 := by
  have four : 4 ≤ number.rounding.middle := by
    have middle := middle_mul number 1
    have unit : 1 <<< 0 ≤ 1 <<< number.scale := unit_mono (Nat.zero_le _)
    have several := Nat.mul_le_mul_right (1 <<< number.scale) (significand_pos nonzero)
    omega
  have least : 1 <<< 1076 ≤ number.rounding.middle * tens 330 :=
    Nat.le_trans (by decide +kernel) (Nat.mul_le_mul_right (tens 330) four)
  have positive : 0 < number.rounding.middle * tens 330 / 1 <<< 1076 :=
    Nat.div_pos least (by decide +kernel)
  have bounds := (toDigits_bounds positive).1
  have some_digits : 0 < (Nat.toDigits 10
    (number.rounding.middle * tens 330 / 1 <<< 1076)).length := Nat.length_toDigits_pos
  rw [leadingExponent_eq]
  generalize (Nat.toDigits 10 (number.rounding.middle * tens 330 / 1 <<< 1076)).length =
    count at *
  refine ⟨count - 1, by rw [Nat.sub_add_cancel some_digits], ?_⟩
  exact (Nat.le_div_iff_mul_le (by decide +kernel)).mp bounds

/-- The cells of the grid of seventeen digits are narrower than the interval. -/
theorem narrow_seventeenth {exponent : Int}
    (seventeenth : exponent = leadingExponent number.rounding - 16) :
    cell exponent + number.rounding.low * tensBelow exponent <
      number.rounding.high * tensBelow exponent := by
  obtain ⟨count, leading, least⟩ := leadingExponent_spec nonzero
  have low := low_mul nonzero (tensBelow exponent)
  have high := high_mul number (tensBelow exponent)
  have middle := middle_mul number (tensBelow exponent)
  have powers : tens exponent.toNat * tens 346 =
      tensBelow exponent * tens count := by
    apply Nat.le_antisymm
    · exact tens_mul_le exponent.toNat 346 (-exponent).toNat count (by omega)
    · exact tens_mul_le (-exponent).toNat count exponent.toNat 346 (by omega)
  have places : tens 16 * tens 330 = tens 346 := by decide +kernel
  have leads : cell exponent * tens 16 ≤ 4 * number.significand * tensBelow exponent <<< number.scale := by
    refine Nat.le_of_mul_le_mul_right ?_ (tens_pos 330)
    calc cell exponent * tens 16 * tens 330
        = tens exponent.toNat * tens 346 * 1 <<< 1076 := by
          rw [cell_eq, Nat.mul_assoc, places, Nat.mul_right_comm]
      _ = tensBelow exponent * (tens count * 1 <<< 1076) := by rw [powers, Nat.mul_assoc]
      _ ≤ tensBelow exponent * (number.rounding.middle * tens 330) := Nat.mul_le_mul_left _ least
      _ = 4 * number.significand * tensBelow exponent <<< number.scale * tens 330 := by
          rw [← Nat.mul_assoc, Nat.mul_comm (tensBelow exponent), middle, ← Nat.mul_assoc 4]
  have shifted : 0 < tensBelow exponent <<< number.scale := by
    rw [Nat.shiftLeft_eq]
    exact Nat.mul_pos (tensBelow_pos exponent) (Nat.two_pow_pos _)
  have less : cell exponent < (2 + number.reachDown) * tensBelow exponent <<< number.scale := by
    refine Nat.lt_of_mul_lt_mul_right (Nat.lt_of_le_of_lt leads ?_)
    rw [Nat.mul_right_comm (2 + number.reachDown)]
    exact Nat.mul_lt_mul_of_pos_right (reach_bound number) shifted
  rw [Nat.add_mul] at less
  omega

/-- Seventeen digits are enough. -/
theorem holds_shortestDigits :
    number.rounding.Holds number.shortestDigits.1 number.shortestDigits.2 := by
  have lower : number.rounding.low ≤ number.rounding.middle := Nat.sub_le _ _
  have upper : number.rounding.middle < number.rounding.high := by
    have middle := middle_mul number 1
    have high := high_mul number 1
    have unit : 1 <<< 0 ≤ 1 <<< number.scale := unit_mono (Nat.zero_le _)
    omega
  let grid (count : Nat) := (number.rounding.onGrid? (leadingExponent number.rounding - count)).map
    fun digits => (digits, leadingExponent number.rounding - (count : Int))
  obtain ⟨last, reached⟩ := Rounding.exists_onGrid? lower upper (narrow_seventeenth nonzero rfl)
  have found : ((List.range 17).findSome? grid).isSome := by
    rw [List.findSome?_isSome_iff]
    exact ⟨16, by decide, by simp [grid, reached]⟩
  obtain ⟨shortest, chosen⟩ := Option.isSome_iff_exists.mp found
  obtain ⟨count, _, answer⟩ := List.exists_of_findSome?_eq_some chosen
  obtain ⟨digits, on, rfl⟩ := Option.map_eq_some_iff.mp answer
  have same : number.shortestDigits = (digits, leadingExponent number.rounding - (count : Int)) := by
    change ((List.range 17).findSome? grid).getD (0, 0) = _
    rw [chosen]
    rfl
  rw [same]
  rcases number.rounding.onGrid?_cases (leadingExponent number.rounding - count) with
    ⟨other, again, held⟩ | ⟨none, _⟩
  · rw [on, Option.some.injEq] at again
    exact again ▸ held
  · rw [on] at none
    contradiction

end Reading

end Reshape.Binary64
