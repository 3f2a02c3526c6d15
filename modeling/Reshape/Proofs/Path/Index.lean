import Mathlib.Data.List.Induction
import Reshape.Path.Index

namespace Reshape

theorem digitChar_of_isDigit {digit : Char} (decimal : digit.isDigit) :
    digit.toNat - 48 < 10 ∧ (digit.toNat - 48).digitChar = digit := by
  simp only [Char.isDigit, Bool.and_eq_true, decide_eq_true_eq] at decimal
  have lower : 48 ≤ digit.toNat := decimal.1
  have upper : digit.toNat ≤ 57 := decimal.2
  have small : digit.toNat - 48 < 10 := by omega
  refine ⟨small, Char.toNat_inj.mp ?_⟩
  rw [Nat.toNat_digitChar_of_lt_ten small]
  omega

theorem ne_of_isDigit {digit mark : Char} (decimal : digit.isDigit)
    (undigital : mark.isDigit = false) : digit ≠ mark := by
  rintro rfl
  rw [decimal] at undigital
  contradiction

theorem isDigit_toDigits (number : Nat) : ∀ digit ∈ Nat.toDigits 10 number, digit.isDigit :=
  fun _ => Nat.isDigit_of_mem_toDigits (by decide) (by decide)

theorem toDigits_ofDigitChars {digits : List Char} (nonempty : digits ≠ [])
    (decimal : ∀ digit ∈ digits, digit.isDigit)
    (canonical : digits.head? = some '0' → digits = ['0']) :
    Nat.toDigits 10 (Nat.ofDigitChars 10 digits 0) = digits := by
  induction digits using List.reverseRecOn with
  | nil => exact absurd rfl nonempty
  | append_singleton front last ih =>
      obtain ⟨small, same⟩ := digitChar_of_isDigit (decimal last (by simp))
      have value : Nat.ofDigitChars 10 (front ++ [last]) 0 =
          10 * Nat.ofDigitChars 10 front 0 + (last.toNat - 48) := by
        simp [Nat.ofDigitChars_append, Nat.ofDigitChars_cons]
      cases front with
      | nil =>
          rw [value, Nat.ofDigitChars_nil, Nat.mul_zero, Nat.zero_add,
            Nat.toDigits_of_lt_base small, same]
          rfl
      | cons first rest =>
          have leading : first ≠ '0' := by
            intro zero
            have short := canonical (by simp [zero])
            simp at short
          have front := ih (by simp)
            (fun digit member => decimal digit (List.mem_append_left _ member))
            (by simp [leading])
          have positive : 0 < Nat.ofDigitChars 10 (first :: rest) 0 := by
            apply Nat.pos_of_ne_zero
            intro zero
            rw [zero, Nat.toDigits_zero] at front
            exact leading (List.cons.inj front).1.symm
          rw [value, ← Nat.toDigits_append_toDigits (by decide) positive small, front,
            Nat.toDigits_of_lt_base small, same]

theorem indexOfDigits?_eq_some_iff {digits : List Char} {index : Nat} :
    indexOfDigits? digits = some index ↔
      digits ≠ [] ∧ (∀ digit ∈ digits, digit.isDigit) ∧
        Nat.ofDigitChars 10 digits 0 = index ∧ index < UInt64.size := by
  unfold indexOfDigits?
  split
  · rename_i improper
    refine ⟨nofun, fun ⟨nonempty, decimal, _⟩ => ?_⟩
    simp [List.isEmpty_iff, nonempty, List.all_eq_true.mpr decimal] at improper
  · rename_i proper
    simp only [Bool.or_eq_true, List.isEmpty_iff, Bool.not_eq_true', not_or, Bool.not_eq_false,
      List.all_eq_true] at proper
    rw [Option.ite_none_right_eq_some, Option.some.injEq]
    constructor
    · rintro ⟨bounded, rfl⟩
      exact ⟨proper.1, proper.2, rfl, bounded⟩
    · rintro ⟨_, _, rfl, bounded⟩
      exact ⟨bounded, rfl⟩

/-- The key of an index is its decimal, if it has no sign. -/
theorem toList_of_index? {key : String} {index : Nat} (found : index? key = some index)
    (unsigned : key.toList.head? ≠ some '+') : key.toList = Nat.toDigits 10 index := by
  unfold index? at found
  split at found
  · contradiction
  · contradiction
  · rename_i digits spelling
    exact absurd (by rw [spelling]; rfl) unsigned
  · rename_i notLong notSigned
    obtain ⟨nonempty, decimal, value, _⟩ := indexOfDigits?_eq_some_iff.mp found
    have canonical : key.toList.head? = some '0' → key.toList = ['0'] := by
      intro zero
      cases spelling : key.toList with
      | nil => exact absurd spelling nonempty
      | cons first rest =>
          rw [spelling, List.head?_cons, Option.some.injEq] at zero
          subst zero
          cases rest with
          | nil => rfl
          | cons second others => exact absurd spelling (notLong second others)
    rw [← value, toDigits_ofDigitChars nonempty decimal canonical]

theorem index?_injective {left right : String} {index : Nat}
    (atLeft : index? left = some index) (atRight : index? right = some index)
    (leftUnsigned : left.toList.head? ≠ some '+')
    (rightUnsigned : right.toList.head? ≠ some '+') :
    left = right := by
  have spellings := (toList_of_index? atLeft leftUnsigned).trans
    (toList_of_index? atRight rightUnsigned).symm
  exact String.toList_inj.mp spellings

theorem toList_toString (index : Nat) : (toString index).toList = Nat.toDigits 10 index := by
  rw [Nat.toString_eq_ofList_toDigits, String.toList_ofList]

theorem toString_injective : Function.Injective (toString : Nat → String) := by
  intro first second same
  have digits : Nat.toDigits 10 first = Nat.toDigits 10 second := by
    rw [← toList_toString, ← toList_toString, same]
  rw [← Nat.ofDigitChars_ten_toDigits (n := first), digits, Nat.ofDigitChars_ten_toDigits]

theorem isDigit_of_mem_toString {index : Nat} {digit : Char}
    (member : digit ∈ (toString index).toList) : digit.isDigit := by
  rw [toList_toString] at member
  exact isDigit_toDigits index digit member

theorem head?_toDigits {index : Nat} (positive : 0 < index) :
    (Nat.toDigits 10 index).head? ≠ some '0' := by
  induction index using Nat.strongRecOn with
  | ind index ih =>
      rw [Nat.toDigits_eq_if (by decide)]
      split
      · simp [Nat.digitChar_eq_zero]
        omega
      · have front := ih (index / 10) (by omega) (by omega)
        have nonempty : Nat.toDigits 10 (index / 10) ≠ [] := Nat.toDigits_ne_nil
        obtain ⟨first, rest, split⟩ := List.exists_cons_of_ne_nil nonempty
        rw [split] at front ⊢
        exact front

theorem indexOfDigits?_toDigits {index : Nat} (bounded : index < UInt64.size) :
    indexOfDigits? (Nat.toDigits 10 index) = some index := by
  have decimal : (Nat.toDigits 10 index).all Char.isDigit :=
    List.all_eq_true.mpr (isDigit_toDigits index)
  simp [indexOfDigits?, decimal, Nat.toDigits_ne_nil, Nat.ofDigitChars_ten_toDigits, bounded]

theorem index?_toString {index : Nat} (bounded : index < UInt64.size) :
    index? (toString index) = some index := by
  have spelled := toList_toString index
  unfold index?
  split
  · rename_i empty
    exact absurd (spelled ▸ empty) Nat.toDigits_ne_nil
  · rename_i second rest zero
    rw [spelled] at zero
    rcases Nat.eq_zero_or_pos index with rfl | positive
    · simp at zero
    · exact absurd (by rw [zero]; rfl) (head?_toDigits positive)
  · rename_i digits signed
    have member : '+' ∈ (toString index).toList := signed ▸ List.mem_cons_self
    have digit := isDigit_of_mem_toString member
    contradiction
  · rw [spelled]
    exact indexOfDigits?_toDigits bounded

theorem index?_lt {key : String} {index : Nat} (found : index? key = some index) :
    index < UInt64.size := by
  unfold index? at found
  split at found
  · contradiction
  · contradiction
  · exact (indexOfDigits?_eq_some_iff.mp found).2.2.2
  · exact (indexOfDigits?_eq_some_iff.mp found).2.2.2

theorem index?_succ_lt {key : String} {index : Nat} (found : index? key = some index)
    (room : index? key ≠ some (UInt64.size - 1)) : index + 1 < UInt64.size := by
  have inside := index?_lt found
  have other : index ≠ UInt64.size - 1 := fun same => room (same ▸ found)
  omega

theorem ofDigitChars_zeros (zeros : Nat) (digits : List Char) :
    Nat.ofDigitChars 10 (List.replicate zeros '0' ++ digits) 0 = Nat.ofDigitChars 10 digits 0 := by
  induction zeros with
  | zero => rfl
  | succ zeros ih => simpa [List.replicate_succ, Nat.ofDigitChars_cons] using ih

theorem exists_zeros_toDigits {digits : List Char} (nonempty : digits ≠ [])
    (decimal : ∀ digit ∈ digits, digit.isDigit) :
    ∃ zeros, digits =
      List.replicate zeros '0' ++ Nat.toDigits 10 (Nat.ofDigitChars 10 digits 0) := by
  induction digits with
  | nil => contradiction
  | cons first rest ih =>
      by_cases leading : first = '0' ∧ rest ≠ []
      · obtain ⟨rfl, more⟩ := leading
        obtain ⟨zeros, same⟩ := ih more fun digit member =>
          decimal digit (List.mem_cons_of_mem _ member)
        have value := ofDigitChars_zeros 1 rest
        refine ⟨zeros + 1, ?_⟩
        rw [List.replicate_succ, List.cons_append]
        change Nat.ofDigitChars 10 ('0' :: rest) 0 = _ at value
        rw [value, ← same]
      · refine ⟨0, (toDigits_ofDigitChars nonempty decimal fun zero => ?_).symm⟩
        have same : first = '0' := Option.some.inj zero
        have alone : rest = [] := by simpa [same] using leading
        rw [same, alone]

/-- The keys of a list position: its decimal, or a plus sign with any number of zeros and the
decimal. -/
def SpellsIndex (key : String) (index : Nat) : Prop :=
  key = toString index ∨
    ∃ zeros, key.toList = '+' :: (List.replicate zeros '0' ++ (toString index).toList)

theorem SpellsIndex.signed {key : String} {index : Nat} (spells : SpellsIndex key index)
    (other : key ≠ toString index) : key.toList.head? = some '+' := by
  obtain ⟨zeros, spelled⟩ := spells.resolve_left other
  rw [spelled, List.head?_cons]

theorem index?_eq_some_iff {key : String} {index : Nat} :
    index? key = some index ↔ index < UInt64.size ∧ SpellsIndex key index := by
  constructor
  · intro found
    refine ⟨index?_lt found, ?_⟩
    by_cases signed : key.toList.head? = some '+'
    · obtain ⟨digits, spelled⟩ := List.head?_eq_some_iff.mp signed
      unfold index? at found
      rw [spelled] at found
      obtain ⟨nonempty, decimal, value, _⟩ := indexOfDigits?_eq_some_iff.mp found
      obtain ⟨zeros, same⟩ := exists_zeros_toDigits nonempty decimal
      refine .inr ⟨zeros, ?_⟩
      rw [spelled, toList_toString, ← value, ← same]
    · refine .inl (String.toList_inj.mp ?_)
      rw [toList_of_index? found signed, toList_toString]
  · rintro ⟨bounded, rfl | ⟨zeros, spelled⟩⟩
    · exact index?_toString bounded
    · have decimal : ∀ digit ∈ List.replicate zeros '0' ++ Nat.toDigits 10 index, digit.isDigit := by
        intro digit member
        rcases List.mem_append.mp member with zero | inside
        · rw [List.eq_of_mem_replicate zero]
          rfl
        · exact isDigit_toDigits _ _ inside
      unfold index?
      rw [spelled, toList_toString]
      refine indexOfDigits?_eq_some_iff.mpr ⟨by simp [Nat.toDigits_ne_nil], decimal, ?_, bounded⟩
      rw [ofDigitChars_zeros, Nat.ofDigitChars_ten_toDigits]

end Reshape
