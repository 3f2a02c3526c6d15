import Mathlib.Algebra.Order.BigOperators.Group.List
import Mathlib.Algebra.Ring.Int.Defs
import Reshape.Proofs.Filter.BuiltIn
/-!
Sums of integers. They are added up from the left, and the sum is exact as long as every partial
sum is one of a signed 64-bit word. Where one is not, the integers are added up as binary64, even
if their exact sum is one of a word, so that the order of the list counts. It does not count for
lists whose positive elements and whose negative elements add up to a word each.
-/

namespace Reshape.Filter

open Number

variable {total : Int} {numbers others : List Int}

/-- What integers add up to as binary64, with a rounding at every addition; null where that is
not finite. -/
def roundedSum (numbers : List Int) : Value :=
  Value.ofFloat (floatSum (numbers.map fun number => ((Binary64.ofInt? number).getD .zero).toFloat))

/-- Every sum of first elements, on top of a total, is one of a signed word. -/
def PartialSumsFit (total : Int) (numbers : List Int) : Prop :=
  ∀ front, front <+: numbers → FitsSigned (total + front.sum)

theorem partialSumsFit_nil : PartialSumsFit total [] ↔ FitsSigned total := by
  simp [PartialSumsFit]

theorem partialSumsFit_cons {number : Int} {rest : List Int} :
    PartialSumsFit total (number :: rest) ↔
      FitsSigned total ∧ PartialSumsFit (total + number) rest := by
  constructor
  · intro fit
    refine ⟨by simpa using fit [] List.nil_prefix, fun front first => ?_⟩
    have longer := fit (number :: front) ((List.prefix_cons_inj number).mpr first)
    rwa [List.sum_cons, ← Int.add_assoc] at longer
  · rintro ⟨start, fit⟩ front first
    cases front with
    | nil => simpa using start
    | cons other front =>
        obtain ⟨rfl, later⟩ := List.cons_prefix_cons.mp first
        rw [List.sum_cons, ← Int.add_assoc]
        exact fit front later

instance decidablePartialSumsFit : (total : Int) → (numbers : List Int) →
    Decidable (PartialSumsFit total numbers)
  | _, [] => decidable_of_iff _ partialSumsFit_nil.symm
  | total, number :: rest =>
      have := decidablePartialSumsFit (total + number) rest
      decidable_of_iff _ partialSumsFit_cons.symm

theorem ofInt_of_fitsSigned {number : Int} (fits : FitsSigned number) :
    ∃ word, Value.ofInt number = .number (.int number word) := by
  have word : FitsWord number := ⟨fits.1, by have := fits.2; omega⟩
  exact ⟨word, by rw [Value.ofInt, Number.ofInt?, dif_pos word]; rfl⟩

theorem integerSum?_cons {number : Int} (fits : FitsSigned number) (rest : List Value) :
    integerSum? total (Value.ofInt number :: rest) =
      if FitsSigned (total + number) then integerSum? (total + number) rest else none := by
  obtain ⟨word, same⟩ := ofInt_of_fitsSigned fits
  have read : (number? (Value.ofInt number)).bind Number.toSignedWord? = some number := by
    rw [same]
    exact if_pos fits
  rw [integerSum?, read]

section Words

variable (fits : ∀ number ∈ numbers, FitsSigned number)
include fits

theorem integerSum?_of_fit (fit : PartialSumsFit total numbers) :
    integerSum? total (numbers.map Value.ofInt) = some (total + numbers.sum) := by
  induction numbers generalizing total with
  | nil => simp [integerSum?]
  | cons number rest ih =>
      obtain ⟨here, later⟩ := List.forall_mem_cons.mp fits
      have onward := (partialSumsFit_cons.mp fit).2
      have next : FitsSigned (total + number) := by simpa using onward [] List.nil_prefix
      rw [List.map_cons, integerSum?_cons here, if_pos next, ih later onward, List.sum_cons,
        Int.add_assoc]

theorem integerSum?_of_not_fit (start : FitsSigned total) (unfit : ¬ PartialSumsFit total numbers) :
    integerSum? total (numbers.map Value.ofInt) = none := by
  induction numbers generalizing total with
  | nil => exact absurd (fun front first => by simpa [List.prefix_nil.mp first] using start) unfit
  | cons number rest ih =>
      obtain ⟨here, later⟩ := List.forall_mem_cons.mp fits
      rw [List.map_cons, integerSum?_cons here]
      split
      · rename_i next
        exact ih later next fun onward => unfit (partialSumsFit_cons.mpr ⟨start, onward⟩)
      · rfl

theorem floats_ofInts (position : Nat) :
    floats (numbers.map Value.ofInt) position =
      .ok (numbers.map fun number => ((Binary64.ofInt? number).getD .zero).toFloat) := by
  induction numbers generalizing position with
  | nil => rfl
  | cons number rest ih =>
      obtain ⟨here, later⟩ := List.forall_mem_cons.mp fits
      obtain ⟨word, same⟩ := ofInt_of_fitsSigned here
      rw [List.map_cons, same, floats, number?, ih later]
      rfl

end Words

theorem roundedSum_ne_ofInt {number : Int} (fits : FitsSigned number) (numbers : List Int) :
    roundedSum numbers ≠ Value.ofInt number := by
  obtain ⟨word, same⟩ := ofInt_of_fitsSigned fits
  rw [same, roundedSum, Value.ofFloat]
  cases Binary64.ofFloat? _ <;> simp [Value.ofNumber?]

section Sum

variable (context : FilterContext) (arguments : List Value)
  (fits : ∀ number ∈ numbers, FitsSigned number)
include fits

theorem sum_of_fit (fit : PartialSumsFit 0 numbers) :
    sum { context with source := .list (numbers.map Value.ofInt) } arguments =
      pure (Value.ofInt numbers.sum) := by
  refine ofPure_eq_pure_iff.mpr ?_
  rw [onList, integerSum?_of_fit fits fit, Int.zero_add]

theorem sum_of_not_fit (unfit : ¬ PartialSumsFit 0 numbers) :
    sum { context with source := .list (numbers.map Value.ofInt) } arguments =
      pure (roundedSum numbers) := by
  refine ofPure_eq_pure_iff.mpr ?_
  rw [onList, integerSum?_of_not_fit fits (by decide) unfit, floatsOf, floats_ofInts fits]
  rfl

theorem sum_exact_iff (whole : FitsSigned numbers.sum) :
    sum { context with source := .list (numbers.map Value.ofInt) } arguments =
      pure (Value.ofInt numbers.sum) ↔ PartialSumsFit 0 numbers := by
  refine ⟨fun exact => ?_, sum_of_fit context arguments fits⟩
  by_contra unfit
  rw [sum_of_not_fit context arguments fits unfit] at exact
  exact roundedSum_ne_ofInt whole numbers (Attempt.pure_eq_pure_iff.mp exact)

end Sum

section Signs

variable (numbers)

def positiveSum : Int := (numbers.filter (0 < ·)).sum

def negativeSum : Int := (numbers.filter (· < 0)).sum

theorem sum_eq_signs : numbers.sum = positiveSum numbers + negativeSum numbers := by
  induction numbers with
  | nil => rfl
  | cons number rest ih =>
      rw [List.sum_cons, ih, positiveSum, positiveSum, negativeSum, negativeSum, List.filter_cons,
        List.filter_cons]
      obtain below | rfl | above := Int.lt_trichotomy number 0
      · rw [if_neg (by simp; omega), if_pos (by simpa), List.sum_cons]
        omega
      · simp
      · rw [if_pos (by simpa), if_neg (by simp; omega), List.sum_cons]
        omega

theorem signs_apart : 0 ≤ positiveSum numbers ∧ negativeSum numbers ≤ 0 := by
  induction numbers with
  | nil => exact ⟨Int.le_refl 0, Int.le_refl 0⟩
  | cons number rest ih =>
      simp only [positiveSum, negativeSum, List.filter_cons, decide_eq_true_eq] at ih ⊢
      constructor
      · split
        · rw [List.sum_cons]
          omega
        · exact ih.1
      · split
        · rw [List.sum_cons]
          omega
        · exact ih.2

variable {numbers}

theorem partialSumsFit_of_signs (positive : FitsSigned (positiveSum numbers))
    (negative : FitsSigned (negativeSum numbers)) : PartialSumsFit 0 numbers := by
  rintro front ⟨back, rfl⟩
  have front_apart := signs_apart front
  have back_apart := signs_apart back
  have upper : positiveSum (front ++ back) = positiveSum front + positiveSum back := by
    simp [positiveSum]
  have lower : negativeSum (front ++ back) = negativeSum front + negativeSum back := by
    simp [negativeSum]
  rw [Int.zero_add, sum_eq_signs]
  unfold FitsSigned at *
  omega

theorem positiveSum_of_perm (perm : others.Perm numbers) :
    positiveSum others = positiveSum numbers := (perm.filter _).sum_eq

theorem negativeSum_of_perm (perm : others.Perm numbers) :
    negativeSum others = negativeSum numbers := (perm.filter _).sum_eq

/-- In some order the elements that satisfy a test come first, so that their sum is a partial one. -/
theorem fits_filter_of_perms (test : Int → Bool)
    (fit : ∀ others, others.Perm numbers → PartialSumsFit 0 others) :
    FitsSigned (numbers.filter test).sum := by
  have sorted := fit _ (List.filter_append_perm test numbers) (numbers.filter test)
    (List.prefix_append _ _)
  rwa [Int.zero_add] at sorted

theorem partialSumsFit_perms_iff :
    (∀ others, others.Perm numbers → PartialSumsFit 0 others) ↔
      FitsSigned (positiveSum numbers) ∧ FitsSigned (negativeSum numbers) := by
  constructor
  · intro fit
    exact ⟨fits_filter_of_perms _ fit, fits_filter_of_perms _ fit⟩
  · rintro ⟨positive, negative⟩ others perm
    exact partialSumsFit_of_signs (positiveSum_of_perm perm ▸ positive)
      (negativeSum_of_perm perm ▸ negative)

end Signs

/-- The sum of integers of a signed word is exact if and only if no partial sum leaves the word;
otherwise it is the rounded one. Every order of the list gives the exact sum if and only if the
positive elements and the negative elements add up to a word each. -/
theorem sum_integers (context : FilterContext) (arguments : List Value)
    (fits : ∀ number ∈ numbers, FitsSigned number) (whole : FitsSigned numbers.sum) :
    let summed (list : List Int) :=
      sum { context with source := .list (list.map Value.ofInt) } arguments
    (summed numbers = pure (Value.ofInt numbers.sum) ↔ PartialSumsFit 0 numbers) ∧
    (¬ PartialSumsFit 0 numbers → summed numbers = pure (roundedSum numbers)) ∧
    ((∀ others, others.Perm numbers → summed others = pure (Value.ofInt numbers.sum)) ↔
      FitsSigned (positiveSum numbers) ∧ FitsSigned (negativeSum numbers)) := by
  intro summed
  refine ⟨sum_exact_iff context arguments fits whole, sum_of_not_fit context arguments fits, ?_⟩
  rw [← partialSumsFit_perms_iff]
  refine forall_congr' fun others => forall_congr' fun perm => ?_
  have others_fit : ∀ number ∈ others, FitsSigned number :=
    fun number member => fits number (perm.mem_iff.mp member)
  have same : others.sum = numbers.sum := perm.sum_eq
  rw [← same]
  exact sum_exact_iff context arguments others_fit (same ▸ whole)

/-- The greatest integer of a signed word is the sum in one order and not in all. -/
theorem sum_integers_greatest :
    let context := FilterContext.bare
    let numbers : List Int := [9223372036854775807, -1, 1]
    (∀ number ∈ numbers, FitsSigned number) ∧ FitsSigned numbers.sum ∧
    sum { context with source := .list (numbers.map Value.ofInt) } [] =
      pure (Value.ofInt 9223372036854775807) ∧
    ¬ ∀ others : List Int, others.Perm numbers →
      sum { context with source := .list (others.map Value.ofInt) } [] =
        pure (Value.ofInt 9223372036854775807) := by
  intro context numbers
  have fits : ∀ number ∈ numbers, FitsSigned number := by decide
  have whole : FitsSigned numbers.sum := by decide
  obtain ⟨exact_iff, _, orders⟩ := sum_integers context [] fits whole
  exact ⟨fits, whole, exact_iff.mpr (by decide), fun always => absurd (orders.mp always).1 (by decide)⟩

/-- One more before one less leaves the word halfway, and the sum is the float above. -/
theorem sum_integers_overflowing :
    let context := FilterContext.bare
    let numbers : List Int := [9223372036854775807, 1, -1]
    (∀ number ∈ numbers, FitsSigned number) ∧ FitsSigned numbers.sum ∧
    sum { context with source := .list (numbers.map Value.ofInt) } [] ≠
      pure (Value.ofInt numbers.sum) ∧
    sum { context with source := .list (numbers.map Value.ofInt) } [] =
      pure (.number (.float { negative := false, rank := 4890909195324358656 })) := by
  intro context numbers
  have fits : ∀ number ∈ numbers, FitsSigned number := by decide
  have rounded := sum_of_not_fit context [] fits (by decide)
  have value : roundedSum numbers =
      .number (.float { negative := false, rank := 4890909195324358656 }) := by
    have nearest : Binary64.ofFloat? (floatSum (numbers.map fun number =>
        ((Binary64.ofInt? number).getD .zero).toFloat)) =
          some { negative := false, rank := 4890909195324358656 } := by decide +kernel
    rw [roundedSum, Value.ofFloat, nearest]
    rfl
  refine ⟨fits, by decide, fun exact => ?_, by rw [rounded, value]⟩
  exact absurd ((sum_exact_iff context [] fits (by decide)).mp exact) (by decide)

end Reshape.Filter
