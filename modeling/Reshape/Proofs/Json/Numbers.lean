import Reshape.Proofs.Decimal.Layout
import Reshape.Proofs.Json.Scan

namespace Reshape.Json

open Binary64 (Spelling pointChars powerChars pointChars_of_ne_nil)

variable {rest : List Char}

theorem exponent?_signed {text behind digits : List Char} {negative : Bool}
    (sign : signed text = (negative, behind)) (read : digits? behind = some (digits, rest)) :
    exponent? ('e' :: text) =
      some (some (if negative then -(Nat.ofDigitChars 10 digits 0 : Int)
        else Nat.ofDigitChars 10 digits 0), rest) := by
  rw [exponent?, if_pos (by decide), sign, read]
  rfl

theorem exponent?_powerChars (power : Option Int) (bounded : Bounded rest) :
    exponent? (powerChars "e+" power ++ rest) = some (power, rest) := by
  cases power with
  | none => exact exponent?_bounded bounded
  | some power =>
      have digits : digits? (Nat.toDigits 10 power.natAbs ++ rest) = _ :=
        digits?_append Nat.toDigits_ne_nil (isDigit_toDigits _)
          fun character first => (bounded character first).1
      by_cases negative : power < 0
      · have value : -(power.natAbs : Int) = power := by omega
        have text : powerChars "e+" (some power) = 'e' :: '-' :: Nat.toDigits 10 power.natAbs := by
          simp [powerChars, negative]
        have read : exponent? ('e' :: '-' :: (Nat.toDigits 10 power.natAbs ++ rest)) = _ :=
          exponent?_signed rfl digits
        rw [Nat.ofDigitChars_ten_toDigits, if_pos rfl, value] at read
        rwa [text]
      · have value : (power.natAbs : Int) = power := by omega
        have text : powerChars "e+" (some power) = 'e' :: '+' :: Nat.toDigits 10 power.natAbs := by
          simp [powerChars, negative]
        have read : exponent? ('e' :: '+' :: (Nat.toDigits 10 power.natAbs ++ rest)) = _ :=
          exponent?_signed rfl digits
        rw [Nat.ofDigitChars_ten_toDigits, if_neg Bool.false_ne_true, value] at read
        rwa [text]

theorem powerChars_ends (power : Option Int) (bounded : Bounded rest) (character : Char)
    (first : (powerChars "e+" power ++ rest).head? = some character) :
    character.isDigit = false ∧ character ≠ '.' := by
  cases power with
  | none =>
      have others := bounded character first
      simp_all
  | some power =>
      have mark : character = 'e' := by
        by_cases negative : power < 0 <;> simpa [powerChars, negative, eq_comm] using first
      rw [mark]
      decide

theorem fraction?_pointChars {fraction tail : List Char}
    (decimal : ∀ digit ∈ fraction, digit.isDigit)
    (ends : ∀ character, tail.head? = some character →
      character.isDigit = false ∧ character ≠ '.') :
    fraction? (pointChars fraction ++ tail) = some (fraction, tail) := by
  cases fraction with
  | nil =>
      unfold fraction?
      split
      · rename_i first
        exact absurd rfl (ends '.' (congrArg List.head? first)).2
      · rfl
  | cons digit others =>
      exact digits?_append (by simp) decimal fun character first => (ends character first).1

theorem whole_cons (spelling : Spelling) (tail : List Char) :
    ∃ first others, spelling.whole ++ tail = first :: others ∧ first.isDigit := by
  obtain ⟨first, others, spelled⟩ := List.exists_cons_of_ne_nil spelling.nonempty
  refine ⟨first, others ++ tail, by rw [spelled]; rfl, spelling.decimal first ?_⟩
  rw [spelled]
  exact List.mem_cons_self

theorem negated_spelling (negative : Bool) (spelling : Spelling) (tail : List Char) :
    negated ((if negative then ['-'] else []) ++ (spelling.whole ++ tail)) =
      (negative, spelling.whole ++ tail) := by
  cases negative with
  | true => rfl
  | false =>
      obtain ⟨first, others, spelled, digit⟩ := whole_cons spelling tail
      rw [spelled]
      unfold negated
      split
      · rename_i minus
        rw [List.cons.inj minus |>.1] at digit
        contradiction
      · rfl

theorem pointChars_ends {fraction tail : List Char}
    (ends : ∀ character, tail.head? = some character → character.isDigit = false)
    (character : Char) (first : (pointChars fraction ++ tail).head? = some character) :
    character.isDigit = false := by
  cases fraction with
  | nil => exact ends character first
  | cons =>
      cases first
      decide

theorem numberOfParts?_spelling {spelling : Spelling} {negative : Bool} {number : Binary64}
    (denoted : spelling.number? negative = some number) :
    numberOfParts? negative spelling.whole spelling.fraction spelling.power =
      some (.float number) := by
  have float : (spelling.fraction.isEmpty && spelling.power.isNone) = false := by
    rcases spelling.fractional with behind | raised
    · simp [behind]
    · simp [raised]
  rw [numberOfParts?, float, Bool.false_and, if_neg Bool.false_ne_true]
  exact congrArg (Option.map Number.float) denoted

theorem number?_spelling {spelling : Spelling} {negative : Bool} {number : Binary64}
    (denoted : spelling.number? negative = some number) (bounded : Bounded rest) :
    number? ((if negative then ['-'] else []) ++ spelling.chars "e+" ++ rest) =
      some (.float number, rest) := by
  obtain ⟨decimal, behind⟩ := List.forall_mem_append.mp spelling.decimal
  have ends := powerChars_ends spelling.power bounded
  have fraction := fraction?_pointChars behind ends
  have whole : wholePart? (spelling.whole ++ (pointChars spelling.fraction ++ _)) = _ :=
    wholePart?_append spelling.nonempty decimal spelling.canonical
      (pointChars_ends fun character first => (ends character first).1)
  rw [Spelling.chars, List.append_assoc, List.append_assoc, List.append_assoc, number?,
    negated_spelling]
  simp only [Option.bind_eq_bind, whole, Option.bind_some, fraction,
    exponent?_powerChars spelling.power bounded, numberOfParts?_spelling denoted, Option.map_some]

theorem number?_text (number : Number) (bounded : Bounded rest) :
    number? (number.text.toList ++ rest) = some (number, rest) := by
  cases number with
  | int value fits => exact number?_int value fits bounded
  | float value =>
      obtain ⟨spelling, text, denoted⟩ := Binary64.textWith_spelled "e+" value
      change number? ((value.textWith "e+").toList ++ rest) = _
      rw [text]
      exact number?_spelling denoted bounded

theorem text_cons (number : Number) : ∃ first others, number.text.toList = first :: others ∧
    (first = '-' ∨ first.isDigit) ∧ isBlank first = false := by
  cases number with
  | int value fits => exact text_int_cons value fits
  | float value =>
      obtain ⟨spelling, text, _⟩ := Binary64.textWith_spelled "e+" value
      obtain ⟨first, others, spelled, digit⟩ := whole_cons spelling
        (pointChars spelling.fraction ++ powerChars "e+" spelling.power)
      change ∃ _ _, (value.textWith "e+").toList = _ ∧ _
      rw [text, Spelling.chars, spelled]
      cases value.negative with
      | true => exact ⟨'-', _, rfl, .inl rfl, rfl⟩
      | false => exact ⟨first, _, rfl, .inr digit, isBlank_digit digit⟩

theorem spells_number (number : Number) : Spells number.text.toList [.number number] := by
  obtain ⟨first, others, spelled, starts, visible⟩ := text_cons number
  rw [spelled]
  refine .of_next? visible fun rest bounded => next?_of_number? starts ?_
  have read := number?_text number bounded
  rwa [spelled] at read

end Reshape.Json
