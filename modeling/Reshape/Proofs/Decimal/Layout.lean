import Reshape.Proofs.Decimal.Shortest
import Reshape.Proofs.Path.Index
import Mathlib.Data.List.Basic

namespace Reshape.Binary64

theorem dropTrailingZeros_spec (text : List Char) (exponent : Int) :
    ∃ zeros : Nat, text = (dropTrailingZeros text exponent).1 ++ List.replicate zeros '0' ∧
      (dropTrailingZeros text exponent).2 = exponent + zeros := by
  induction text with
  | nil => exact ⟨0, rfl, by simp [dropTrailingZeros]⟩
  | cons digit rest ih =>
      obtain ⟨zeros, spelled, raised⟩ := ih
      rw [dropTrailingZeros]
      generalize dropTrailingZeros rest exponent = dropped at *
      obtain ⟨kept, power⟩ := dropped
      cases kept with
      | cons first others => exact ⟨zeros, by simp [spelled], raised⟩
      | nil =>
          dsimp only at raised spelled ⊢
          split
          · rename_i zero
            refine ⟨zeros + 1, ?_, by rw [raised]; omega⟩
            rw [spelled, eq_of_beq zero]
            rfl
          · exact ⟨zeros, by rw [spelled]; rfl, raised⟩

def pointChars : List Char → List Char
  | [] => []
  | fraction => '.' :: fraction

def powerChars (raisedMark : String) : Option Int → List Char
  | none => []
  | some power =>
      (if power < 0 then "e-" else raisedMark).toList ++ Nat.toDigits 10 power.natAbs

/-- The parts of a text that denotes a decimal and cannot be taken for an integer. -/
structure Spelling where
  whole : List Char
  fraction : List Char
  power : Option Int
  nonempty : whole ≠ []
  decimal : ∀ digit ∈ whole ++ fraction, digit.isDigit
  canonical : whole.head? = some '0' → whole = ['0']
  fractional : fraction ≠ [] ∨ power.isSome

namespace Spelling

def chars (raisedMark : String) (spelling : Spelling) : List Char :=
  spelling.whole ++ (pointChars spelling.fraction ++ powerChars raisedMark spelling.power)

def digits (spelling : Spelling) : Nat :=
  Nat.ofDigitChars 10 (spelling.whole ++ spelling.fraction) 0

def exponent (spelling : Spelling) : Int := spelling.power.getD 0 - spelling.fraction.length

/-- The number that the parts denote. -/
def number? (negative : Bool) (spelling : Spelling) : Option Binary64 :=
  ofDecimal? negative spelling.digits spelling.exponent

def zero : Spelling where
  whole := ['0']
  fraction := ['0']
  power := none
  nonempty := by decide
  decimal :=
    List.forall_mem_append.mpr ⟨List.forall_mem_singleton.mpr rfl, List.forall_mem_singleton.mpr rfl⟩
  canonical := by decide
  fractional := by decide

end Spelling

theorem ofDigitChars_padded (digits : List Char) (zeros : Nat) :
    Nat.ofDigitChars 10 (digits ++ List.replicate zeros '0') 0 =
      Nat.ofDigitChars 10 digits 0 * tens zeros := by
  rw [Nat.ofDigitChars_append, Nat.ofDigitChars_replicate_zero, Nat.mul_comm]
  rfl

theorem pointChars_of_ne_nil {fraction : List Char} (behind : fraction ≠ []) :
    pointChars fraction = '.' :: fraction := by
  cases fraction with
  | nil => contradiction
  | cons => rfl

/-- A text spells digits and a power of ten, maybe with more zeros behind the digits. -/
def Spells (raisedMark : String) (text : List Char) (digits : Nat) (exponent : Int) : Prop :=
  ∃ (spelling : Spelling) (zeros : Nat), text = spelling.chars raisedMark ∧
    spelling.digits = digits * tens zeros ∧ spelling.exponent = exponent - zeros

section Layout

variable {raisedMark : String} {whole fraction digits : List Char}

theorem Spells.of_padded {text : List Char} {value count : Nat} {exponent : Int}
    (padded : Spells raisedMark text (value * tens count) (exponent - count)) :
    Spells raisedMark text value exponent := by
  obtain ⟨spelling, zeros, spelled, digits, power⟩ := padded
  refine ⟨spelling, count + zeros, spelled, ?_, by omega⟩
  rw [digits, Nat.mul_assoc, tens, tens, tens, Nat.pow_eq, Nat.pow_eq, Nat.pow_eq, ← Nat.pow_add]

theorem spells_pointed (nonempty : whole ≠ []) (behind : fraction ≠ [])
    (decimal : ∀ digit ∈ whole ++ fraction, digit.isDigit)
    (canonical : whole.head? = some '0' → whole = ['0']) :
    Spells raisedMark (whole ++ '.' :: fraction) (Nat.ofDigitChars 10 (whole ++ fraction) 0)
      (-fraction.length) := by
  refine ⟨{ whole, fraction, power := none, nonempty, decimal, canonical,
            fractional := .inl behind }, 0, ?_, ?_, ?_⟩
  · simp [Spelling.chars, pointChars_of_ne_nil behind, powerChars]
  · simp [Spelling.digits, tens]
  · simp [Spelling.exponent]

theorem spells_raised {first : Char} (decimal : ∀ digit ∈ first :: fraction, digit.isDigit)
    (leading : (first :: fraction).head? ≠ some '0') (power : Int) :
    Spells raisedMark (first :: (pointChars fraction ++ powerChars raisedMark (some power)))
      (Nat.ofDigitChars 10 (first :: fraction) 0) (power - fraction.length) := by
  refine ⟨{ whole := [first], fraction, power := some power, nonempty := by simp, decimal,
            canonical := fun zero => absurd zero leading, fractional := .inr (by simp) }, 0, rfl, ?_, ?_⟩
  · simp [Spelling.digits, tens]
  · simp [Spelling.exponent]

theorem digits_replicate_zero (count : Nat) : ∀ digit ∈ List.replicate count '0', digit.isDigit := by
  intro digit member
  rw [List.eq_of_mem_replicate member]
  decide

theorem spells_filled (nonempty : digits ≠ []) (decimal : ∀ digit ∈ digits, digit.isDigit)
    (leading : digits.head? ≠ some '0') (count : Nat) :
    Spells raisedMark (digits ++ List.replicate count '0' ++ ['.', '0'])
      (Nat.ofDigitChars 10 digits 0) count := by
  have padded : digits ++ List.replicate count '0' ++ ['0'] =
      digits ++ List.replicate (count + 1) '0' := by
    rw [List.append_assoc, ← List.replicate_succ']
  have spelled : Spells raisedMark (digits ++ List.replicate count '0' ++ '.' :: ['0'])
      (Nat.ofDigitChars 10 (digits ++ List.replicate count '0' ++ ['0']) 0) (-1) := by
    apply spells_pointed
    · simp [nonempty]
    · simp
    · rw [padded]
      exact List.forall_mem_append.mpr ⟨decimal, digits_replicate_zero _⟩
    · rw [List.head?_append_of_ne_nil _ nonempty]
      exact fun first => absurd first leading
  have lowered : (count : Int) - (count + 1 : Nat) = -1 := by omega
  rw [padded, ofDigitChars_padded, ← lowered] at spelled
  exact .of_padded spelled

theorem spells_among (decimal : ∀ digit ∈ digits, digit.isDigit)
    (leading : digits.head? ≠ some '0') (count : Nat) (positive : 0 < count)
    (inside : count < digits.length) :
    Spells raisedMark (digits.take count ++ '.' :: digits.drop count)
      (Nat.ofDigitChars 10 digits 0) (count - digits.length) := by
  have lowered : (count : Int) - digits.length = -((digits.drop count).length : Int) := by
    rw [List.length_drop]
    omega
  have spelled : Spells raisedMark (digits.take count ++ '.' :: digits.drop count)
      (Nat.ofDigitChars 10 (digits.take count ++ digits.drop count) 0)
      (-(digits.drop count).length) := by
    apply spells_pointed
    · rw [Ne, List.take_eq_nil_iff, not_or]
      exact ⟨Nat.ne_of_gt positive, List.ne_nil_of_length_pos (by omega)⟩
    · rw [Ne, List.drop_eq_nil_iff]
      omega
    · rwa [List.take_append_drop]
    · rw [List.head?_take, if_neg (by omega)]
      exact fun first => absurd first leading
  rwa [List.take_append_drop, ← lowered] at spelled

theorem spells_behind (nonempty : digits ≠ []) (decimal : ∀ digit ∈ digits, digit.isDigit)
    (count : Nat) :
    Spells raisedMark ('0' :: '.' :: (List.replicate count '0' ++ digits))
      (Nat.ofDigitChars 10 digits 0) (-(count + digits.length : Nat)) := by
  have lowered : (List.replicate count '0' ++ digits).length = count + digits.length := by
    rw [List.length_append, List.length_replicate]
  have spelled : Spells raisedMark (['0'] ++ '.' :: (List.replicate count '0' ++ digits))
      (Nat.ofDigitChars 10 (['0'] ++ (List.replicate count '0' ++ digits)) 0)
      (-(List.replicate count '0' ++ digits).length) := by
    apply spells_pointed
    · simp
    · simp [nonempty]
    · exact List.forall_mem_append.mpr ⟨digits_replicate_zero 1,
        List.forall_mem_append.mpr ⟨digits_replicate_zero count, decimal⟩⟩
    · simp
  rwa [lowered, ← List.append_assoc, ← List.replicate_one, List.replicate_append_replicate,
    ofDigitChars_zeros] at spelled

theorem spells_layout (nonempty : digits ≠ []) (decimal : ∀ digit ∈ digits, digit.isDigit)
    (leading : digits.head? ≠ some '0') (exponent : Int) :
    Spells raisedMark (layout raisedMark digits exponent).toList (Nat.ofDigitChars 10 digits 0)
      exponent := by
  have positive : 0 < digits.length := List.length_pos_iff.mpr nonempty
  unfold layout
  dsimp only
  split
  · split
    · have spelled : Spells raisedMark _ _ _ :=
        spells_filled nonempty decimal leading exponent.toNat
      rw [Int.toNat_of_nonneg (by omega)] at spelled
      rwa [String.toList_ofList]
    · split
      · generalize counted : (exponent + digits.length - 1 + 1).toNat = count
        have spelled : Spells raisedMark _ _ _ :=
          spells_among decimal leading count (by omega) (by omega)
        have lowered : exponent = count - digits.length := by omega
        rwa [String.toList_ofList, lowered]
      · generalize counted : (-(exponent + digits.length - 1) - 1).toNat = count
        have spelled : Spells raisedMark _ _ _ := spells_behind nonempty decimal count
        have lowered : exponent = -(count + digits.length : Nat) := by omega
        rwa [String.toList_ofList, lowered]
  · obtain ⟨first, fraction, rfl⟩ := List.exists_cons_of_ne_nil nonempty
    have spelled : Spells raisedMark _ _ _ :=
      spells_raised decimal leading (exponent + (first :: fraction).length - 1)
    have lowered : exponent = exponent + (first :: fraction).length - 1 - fraction.length := by
      rw [List.length_cons]
      omega
    rw [← lowered] at spelled
    convert spelled using 1
    cases fraction <;> simp [pointChars, powerChars]

end Layout

theorem shortestDigits_kept {number : Binary64} (nonzero : number.rank ≠ 0) {kept : List Char}
    {power : Int} (dropped : dropTrailingZeros (Nat.toDigits 10 number.shortestDigits.1)
      number.shortestDigits.2 = (kept, power)) :
    kept ≠ [] ∧ (∀ digit ∈ kept, digit.isDigit) ∧ kept.head? ≠ some '0' ∧
      number.rounding.Holds (Nat.ofDigitChars 10 kept 0) power := by
  have held := holds_shortestDigits nonzero
  have positive := digits_pos_of_holds nonzero held
  have value : Nat.ofDigitChars 10 (Nat.toDigits 10 number.shortestDigits.1) 0 =
      number.shortestDigits.1 := Nat.ofDigitChars_ten_toDigits
  have leading := head?_toDigits positive
  have decimal := isDigit_toDigits number.shortestDigits.1
  obtain ⟨zeros, padded, raised⟩ :=
    dropTrailingZeros_spec (Nat.toDigits 10 number.shortestDigits.1) number.shortestDigits.2
  rw [dropped] at padded raised
  dsimp only at padded raised
  rw [padded] at value leading decimal
  rw [ofDigitChars_padded] at value
  have nonempty : kept ≠ [] := by
    rintro rfl
    simp at value
    omega
  rw [List.head?_append_of_ne_nil _ nonempty] at leading
  refine ⟨nonempty, (List.forall_mem_append.mp decimal).1, leading, ?_⟩
  rw [← number.rounding.holds_padded zeros, value, raised, Int.add_sub_cancel]
  exact held

theorem textWith_spelled (raisedMark : String) (number : Binary64) : ∃ spelling : Spelling,
    (number.textWith raisedMark).toList =
        (if number.negative then ['-'] else []) ++ spelling.chars raisedMark ∧
      spelling.number? number.negative = some number := by
  have sign : (if number.negative then "-" else "").toList =
      if number.negative then ['-'] else [] := by split <;> rfl
  unfold textWith
  dsimp only
  split
  · rename_i zero
    refine ⟨Spelling.zero, by rw [String.toList_append, sign]; rfl, ?_⟩
    have same : ofRank? number.negative number.rank = some number := dif_pos number.rank_lt
    rwa [eq_of_beq zero] at same
  · rename_i nonzero
    have nonzero : number.rank ≠ 0 := fun zero => nonzero (beq_iff_eq.mpr zero)
    generalize dropped : dropTrailingZeros (Nat.toDigits 10 number.shortestDigits.1)
      number.shortestDigits.2 = result
    obtain ⟨kept, power⟩ := result
    obtain ⟨nonempty, decimal, leading, held⟩ := shortestDigits_kept nonzero dropped
    have spelled : Spells raisedMark _ _ _ := spells_layout nonempty decimal leading power
    obtain ⟨spelling, zeros, text, digits, exponent⟩ := spelled
    refine ⟨spelling, by rw [String.toList_append, sign, text], ?_⟩
    rw [Spelling.number?, digits, exponent]
    exact ofDecimal?_of_holds nonzero ((number.rounding.holds_padded zeros).mpr held)

end Reshape.Binary64
