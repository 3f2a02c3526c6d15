import Reshape.Number

namespace Reshape.Binary64

variable {numerator other denominator units above : Nat}

theorem nearestQuotient_bounds (numerator denominator : Nat) :
    numerator / denominator ≤ nearestQuotient numerator denominator ∧
      nearestQuotient numerator denominator ≤ numerator / denominator + 1 := by
  unfold nearestQuotient
  dsimp only
  split <;> omega

theorem nearestQuotient_mono (ordered : numerator ≤ other) (denominator : Nat) :
    nearestQuotient numerator denominator ≤ nearestQuotient other denominator := by
  have wholes : numerator / denominator ≤ other / denominator := Nat.div_le_div_right ordered
  have first := Nat.div_add_mod numerator denominator
  have second := Nat.div_add_mod other denominator
  rcases Nat.lt_or_eq_of_le wholes with less | same
  · have upper := (nearestQuotient_bounds numerator denominator).2
    have lower := (nearestQuotient_bounds other denominator).1
    omega
  · rw [same] at first
    have rests : numerator % denominator ≤ other % denominator := by omega
    unfold nearestQuotient
    dsimp only
    rw [same]
    simp only [Bool.or_eq_true, Bool.and_eq_true, decide_eq_true_eq, beq_iff_eq]
    split <;> split <;> omega

theorem nearestQuotient_of_dvd {whole : Nat} (positive : 0 < denominator)
    (exact : numerator = whole * denominator) : nearestQuotient numerator denominator = whole := by
  subst exact
  unfold nearestQuotient
  simp [positive]

def roundingScale (units : Nat) : Nat :=
  if units < 2 * perPower then 0 else Nat.log2 units - 52

/-- How many units count as one at the scale of a number of them. -/
def roundingUnit (units : Nat) : Nat := 1 <<< roundingScale units

def roundedRank (units : Nat) : Nat :=
  roundingScale units * perPower + nearestQuotient units (roundingUnit units)

theorem roundingUnit_pos (units : Nat) : 0 < roundingUnit units := by
  rw [roundingUnit, Nat.shiftLeft_eq, Nat.one_mul]
  exact Nat.two_pow_pos _

theorem lt_of_roundingUnit (units : Nat) : units < roundingUnit units * (2 * perPower) := by
  unfold roundingUnit roundingScale
  split
  · simpa
  · rename_i large
    have power : perPower = 2 ^ 52 := rfl
    have many : units ≠ 0 := by omega
    have top : 53 ≤ units.log2 := (Nat.le_log2 many).mpr (by omega)
    calc units < 2 ^ (units.log2 + 1) := Nat.lt_log2_self
      _ = 1 <<< (units.log2 - 52) * (2 * perPower) := by
        rw [Nat.shiftLeft_eq, Nat.one_mul, power, ← Nat.pow_succ', ← Nat.pow_add]
        congr 1
        omega

theorem le_of_roundingUnit (scaled : roundingScale units ≠ 0) :
    roundingUnit units * perPower ≤ units := by
  unfold roundingUnit roundingScale at *
  split
  · rename_i small
    simp [small] at scaled
  · rename_i large
    have power : perPower = 2 ^ 52 := rfl
    have many : units ≠ 0 := by omega
    have top : 53 ≤ units.log2 := (Nat.le_log2 many).mpr (by omega)
    calc 1 <<< (units.log2 - 52) * perPower = 2 ^ units.log2 := by
          rw [Nat.shiftLeft_eq, Nat.one_mul, power, ← Nat.pow_add]
          congr 1
          omega
      _ ≤ units := Nat.log2_self_le many

theorem roundingScale_mono (ordered : units ≤ above) :
    roundingScale units ≤ roundingScale above := by
  unfold roundingScale
  split
  · exact Nat.zero_le _
  · rename_i large
    rw [if_neg (by omega)]
    have many : units ≠ 0 := by
      rintro rfl
      exact large (by decide)
    have tops : units.log2 ≤ above.log2 :=
      (Nat.le_log2 (by omega)).mpr (Nat.le_trans (Nat.log2_self_le many) ordered)
    omega

theorem roundedRank_le (units : Nat) :
    roundedRank units ≤ roundingScale units * perPower + 2 * perPower := by
  have quotient : units / roundingUnit units < 2 * perPower :=
    Nat.div_lt_of_lt_mul (lt_of_roundingUnit units)
  have upper := (nearestQuotient_bounds units (roundingUnit units)).2
  unfold roundedRank
  omega

theorem le_roundedRank (scaled : roundingScale units ≠ 0) :
    roundingScale units * perPower + perPower ≤ roundedRank units := by
  have quotient : perPower ≤ units / roundingUnit units :=
    (Nat.le_div_iff_mul_le (roundingUnit_pos units)).mpr
      (Nat.mul_comm _ _ ▸ le_of_roundingUnit scaled)
  have lower := (nearestQuotient_bounds units (roundingUnit units)).1
  unfold roundedRank
  omega

theorem range_le_roundedRank (less : roundingScale units < roundingScale above) :
    roundingScale units * perPower + 2 * perPower ≤ roundedRank above := by
  have lower := @le_roundedRank above (by omega)
  have apart : (roundingScale units + 1) * perPower ≤ roundingScale above * perPower :=
    Nat.mul_le_mul_right perPower less
  rw [Nat.succ_mul] at apart
  omega

theorem roundedRank_mono (ordered : units ≤ above) : roundedRank units ≤ roundedRank above := by
  rcases Nat.lt_or_eq_of_le (roundingScale_mono ordered) with less | same
  · exact Nat.le_trans (roundedRank_le units) (range_le_roundedRank less)
  · unfold roundedRank roundingUnit
    rw [same]
    exact Nat.add_le_add_left (nearestQuotient_mono ordered _) _

section Exact

variable {whole larger : Nat} (exact : units = whole * roundingUnit units)
include exact

theorem roundedRank_of_exact : roundedRank units = roundingScale units * perPower + whole := by
  rw [roundedRank, nearestQuotient_of_dvd (roundingUnit_pos units) exact]

theorem roundedRank_lt (exact_above : above = larger * roundingUnit above) (less : units < above) :
    roundedRank units < roundedRank above := by
  rw [roundedRank_of_exact exact]
  rcases Nat.lt_or_eq_of_le (roundingScale_mono (Nat.le_of_lt less)) with lower | same
  · have small : whole * roundingUnit units < 2 * perPower * roundingUnit units := by
      rw [← exact, Nat.mul_comm (2 * perPower)]
      exact lt_of_roundingUnit units
    have bound : whole < 2 * perPower := Nat.lt_of_mul_lt_mul_right small
    exact Nat.lt_of_lt_of_le (Nat.add_lt_add_left bound _) (range_le_roundedRank lower)
  · have unit : roundingUnit units = roundingUnit above := by rw [roundingUnit, roundingUnit, same]
    rw [roundedRank_of_exact exact_above, same]
    apply Nat.add_lt_add_left
    rw [exact, exact_above, unit] at less
    exact Nat.lt_of_mul_lt_mul_right less

end Exact

theorem exact_of_small {number : Nat} (small : number ≤ 2 * perPower) (shift : Nat) :
    ∃ whole, number <<< shift = whole * roundingUnit (number <<< shift) := by
  have power : 2 * perPower = 2 ^ 53 := rfl
  have bits : number <<< shift ≤ 2 ^ (53 + shift) := by
    rw [Nat.shiftLeft_eq, Nat.pow_add, ← power]
    exact Nat.mul_le_mul_right _ small
  suffices divides : roundingUnit (number <<< shift) ∣ number <<< shift by
    obtain ⟨whole, same⟩ := divides
    exact ⟨whole, by rw [Nat.mul_comm, ← same]⟩
  rw [roundingUnit, Nat.shiftLeft_eq 1, Nat.one_mul]
  rcases Nat.lt_or_eq_of_le bits with below | top
  · have scale : roundingScale (number <<< shift) ≤ shift := by
      unfold roundingScale
      split
      · exact Nat.zero_le _
      · rename_i large
        have many : number <<< shift ≠ 0 := by omega
        have length := (Nat.log2_lt many).mpr below
        omega
    have step : 2 ^ roundingScale (number <<< shift) ∣ number * 2 ^ shift :=
      Nat.dvd_mul_left_of_dvd (Nat.pow_dvd_pow 2 scale) number
    rwa [← Nat.shiftLeft_eq] at step
  · have scale : roundingScale (number <<< shift) ≤ 53 + shift := by
      unfold roundingScale
      rw [top, Nat.log2_two_pow]
      split <;> omega
    rw [top] at scale ⊢
    exact Nat.pow_dvd_pow 2 scale

section Integers

variable {number larger : Nat} {value left right : Int}

def wholeRank (number : Nat) : Nat := roundedRank (number <<< 1074)

theorem shiftLeft_le (ordered : number ≤ larger) (shift : Nat) :
    number <<< shift ≤ larger <<< shift := by
  rw [Nat.shiftLeft_eq, Nat.shiftLeft_eq]
  exact Nat.mul_le_mul_right _ ordered

theorem shiftLeft_lt (less : number < larger) (shift : Nat) :
    number <<< shift < larger <<< shift := by
  rw [Nat.shiftLeft_eq, Nat.shiftLeft_eq]
  exact Nat.mul_lt_mul_of_pos_right less (Nat.two_pow_pos shift)

theorem wholeRank_mono (ordered : number ≤ larger) : wholeRank number ≤ wholeRank larger :=
  roundedRank_mono (shiftLeft_le ordered 1074)

theorem wholeRank_lt (small : larger ≤ 2 * perPower) (less : number < larger) :
    wholeRank number < wholeRank larger := by
  obtain ⟨_, exact⟩ := exact_of_small (Nat.le_trans (Nat.le_of_lt less) small) 1074
  obtain ⟨_, above⟩ := exact_of_small small 1074
  exact roundedRank_lt exact above (shiftLeft_lt less 1074)

def nearestPosition (value : Int) : Int := ((ofInt? value).getD .zero).position

theorem nearestPosition_eq (word : Number.FitsWord value) :
    nearestPosition value =
      if value < 0 then -(wholeRank value.natAbs : Int) else wholeRank value.natAbs := by
  have finite : wholeRank value.natAbs < rankLimit := by
    have bound : value.natAbs ≤ 18446744073709551615 := by
      unfold Number.FitsWord at word
      omega
    exact Nat.lt_of_le_of_lt (wholeRank_mono bound) (by decide +kernel)
  have rounded : ofInt? value = ofRank? (value < 0) (wholeRank value.natAbs) := by
    simp only [ofInt?, ofQuotient?, Nat.div_one]
    rfl
  rw [nearestPosition, rounded, ofRank?, dif_pos finite, Option.getD_some, position]
  simp only [decide_eq_true_eq]

/-- Rounding keeps the order of integers, save that it may make them the same. -/
theorem nearestPosition_mono (first : Number.FitsWord left) (second : Number.FitsWord right)
    (ordered : left ≤ right) : nearestPosition left ≤ nearestPosition right := by
  rw [nearestPosition_eq first, nearestPosition_eq second]
  split
  · split
    · have ranks := wholeRank_mono (show right.natAbs ≤ left.natAbs by omega)
      omega
    · omega
  · rw [if_neg (by omega)]
    have ranks := wholeRank_mono (show left.natAbs ≤ right.natAbs by omega)
    omega

theorem nearestPosition_lt (first : left.natAbs ≤ 2 * perPower)
    (second : right.natAbs ≤ 2 * perPower) (less : left < right) :
    nearestPosition left < nearestPosition right := by
  have word {number : Int} (small : number.natAbs ≤ 2 * perPower) : Number.FitsWord number := by
    unfold Number.FitsWord
    unfold perPower at small
    omega
  rw [nearestPosition_eq (word first), nearestPosition_eq (word second)]
  split
  · split
    · have ranks := wholeRank_lt first (show right.natAbs < left.natAbs by omega)
      omega
    · rename_i negative positive
      have ranks := wholeRank_lt first (show 0 < left.natAbs by omega)
      omega
  · rw [if_neg (by omega)]
    have ranks := wholeRank_lt second (show left.natAbs < right.natAbs by omega)
    omega

end Integers

end Reshape.Binary64
