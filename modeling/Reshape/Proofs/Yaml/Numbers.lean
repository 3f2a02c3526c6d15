import Reshape.Proofs.Json.Numbers
import Reshape.Yaml.Scalar

namespace Reshape.Yaml

open Binary64 (Spelling pointChars powerChars)

variable {first character : Char} {text rest digits : List Char}

section Integers

theorem digit?_ten (decimal : character.isDigit) :
    digit? 10 character = some (character.toNat - '0'.toNat) := by
  have small : character.toNat - '0'.toNat < 10 := (digitChar_of_isDigit decimal).1
  rw [digit?, Text.hexDigit?, if_pos decimal, Option.filter_some, if_pos (decide_eq_true small)]

theorem foldlM_digits (decimal : ∀ digit ∈ digits, digit.isDigit) (number : Nat) :
    digits.foldlM (fun number character => (digit? 10 character).map (10 * number + ·)) number =
      some (Nat.ofDigitChars 10 digits number) := by
  induction digits generalizing number with
  | nil => simp
  | cons digit rest ih =>
      obtain ⟨first, others⟩ := List.forall_mem_cons.mp decimal
      rw [List.foldlM_cons, digit?_ten first, Nat.ofDigitChars_cons]
      exact ih others _

theorem digits?_ten (nonempty : digits ≠ []) (decimal : ∀ digit ∈ digits, digit.isDigit) :
    digits? 10 digits = some (Nat.ofDigitChars 10 digits 0) := by
  cases digits with
  | nil => contradiction
  | cons => exact foldlM_digits decimal 0

theorem foldlM_undigital (member : character ∈ text) (undigital : digit? 10 character = none)
    (number : Nat) :
    text.foldlM (fun number character => (digit? 10 character).map (10 * number + ·)) number =
      none := by
  induction text generalizing number with
  | nil => contradiction
  | cons first rest ih =>
      rw [List.foldlM_cons]
      rcases List.mem_cons.mp member with rfl | inside
      · rw [undigital]
        rfl
      · cases (digit? 10 first).map (10 * number + ·) with
        | none => rfl
        | some number => exact ih inside number

theorem digits?_undigital (member : character ∈ text) (undigital : digit? 10 character = none) :
    digits? 10 text = none := by
  cases text with
  | nil => contradiction
  | cons => exact foldlM_undigital member undigital 0

def IsNumeric (character : Char) : Prop := character.isDigit ∨ character ∈ ['-', '.', 'e']

theorem IsNumeric.ne (numeric : IsNumeric character) {mark : Char} (undigital : mark.isDigit = false)
    (other : mark ∉ ['-', '.', 'e']) : character ≠ mark := by
  rintro rfl
  rcases numeric with digit | inside
  · exact ne_of_isDigit digit undigital rfl
  · exact other inside

theorem magnitude?_numeric (numeric : ∀ character ∈ text, IsNumeric character) :
    magnitude? text = digits? 10 text := by
  unfold magnitude?
  split
  · exact absurd rfl ((numeric 'x' (by simp)).ne (by decide) (by decide))
  · exact absurd rfl ((numeric 'o' (by simp)).ne (by decide) (by decide))
  · exact absurd rfl ((numeric 'b' (by simp)).ne (by decide) (by decide))
  · rfl

end Integers

section Signs

theorem not_sign (digit : first.isDigit) : first ≠ '-' ∧ first ≠ '+' :=
  ⟨ne_of_isDigit digit rfl, ne_of_isDigit digit rfl⟩

theorem hasLeadingZero_signed (negative : Bool) (digit : first.isDigit) (rest : List Char) :
    hasLeadingZero ((if negative then ['-'] else []) ++ first :: rest) =
      match first :: rest with
      | '0' :: _ :: _ => (first :: rest).all Char.isDigit
      | _ => false := by
  obtain ⟨notMinus, notPlus⟩ := not_sign digit
  cases negative with
  | true => rfl
  | false =>
      unfold hasLeadingZero
      dsimp only [List.nil_append]
      split <;> simp_all

theorem integer?_signed (negative : Bool) (digit : first.isDigit) (rest : List Char)
    (canonical : hasLeadingZero ((if negative then ['-'] else []) ++ first :: rest) = false) :
    integer? ((if negative then ['-'] else []) ++ first :: rest) =
      (magnitude? (first :: rest)).map fun size : Nat =>
        if negative then -(size : Int) else size := by
  obtain ⟨notMinus, notPlus⟩ := not_sign digit
  unfold integer?
  rw [canonical, if_neg Bool.false_ne_true]
  cases negative with
  | true => cases read : magnitude? (first :: rest) <;> simp [read]
  | false =>
      have unsigned : (if false then ['-'] else []) ++ first :: rest = first :: rest := rfl
      rw [unsigned]
      split
      · simp_all
      · simp_all
      · cases magnitude? (first :: rest) <;> rfl

theorem finite?_signed (negative : Bool) (digit : first.isDigit) (rest : List Char) :
    finite? ((if negative then ['-'] else []) ++ first :: rest) =
      decimal? negative (first :: rest) := by
  obtain ⟨notMinus, notPlus⟩ := not_sign digit
  cases negative with
  | true => rfl
  | false =>
      change finite? (first :: rest) = _
      unfold finite?
      split <;> simp_all

end Signs

section Words

/-- Whether a digit stands first, or behind a minus. -/
def startsNumeric : List Char → Bool
  | '-' :: digit :: _ => digit.isDigit
  | digit :: _ => digit.isDigit
  | [] => false

theorem startsNumeric_signed (negative : Bool) (digit : first.isDigit) (rest : List Char) :
    startsNumeric ((if negative then ['-'] else []) ++ first :: rest) := by
  cases negative with
  | true => exact digit
  | false =>
      change startsNumeric (first :: rest)
      unfold startsNumeric
      split <;> simp_all

/-- The words with a meaning of their own, none of which looks like a number. -/
def words : List String :=
  ["", "null", "Null", "NULL", "~"] ++ (["true", "True", "TRUE"] ++ ["false", "False", "FALSE"]) ++
    nonFinite

theorem not_word {text : String} (starts : startsNumeric text.toList) :
    isNull text = false ∧ bool? text = none ∧ nonFinite.contains text = false := by
  have unlike : ∀ word ∈ words, startsNumeric word.toList = false := by decide
  have unlisted : text ∉ words := by
    intro listed
    rw [unlike text listed] at starts
    contradiction
  simp only [words, List.mem_append, not_or] at unlisted
  obtain ⟨⟨notNull, notTrue, notFalse⟩, notFinite⟩ := unlisted
  refine ⟨?_, ?_, ?_⟩
  · rwa [isNull, List.contains_eq_mem, decide_eq_false_iff_not]
  · rw [bool?, List.contains_eq_mem, List.contains_eq_mem, decide_eq_false notTrue,
      decide_eq_false notFalse]
    rfl
  · rwa [List.contains_eq_mem, decide_eq_false_iff_not]

end Words

section Floats

theorem exponent?_unsigned (digit : first.isDigit) (others : List Char) :
    exponent? ('e' :: first :: others) =
      (digits? 10 (first :: others)).map fun size : Nat => (size : Int) := by
  obtain ⟨notMinus, notPlus⟩ := not_sign digit
  unfold exponent?
  dsimp only
  rw [if_pos (by decide)]
  split
  · simp_all
  · simp_all
  · cases digits? 10 (first :: others) <;> rfl

theorem exponent?_powerChars (power : Option Int) :
    exponent? (powerChars "e" power) = some (power.getD 0) := by
  cases power with
  | none => rfl
  | some power =>
      have digits : digits? 10 (Nat.toDigits 10 power.natAbs) = some power.natAbs := by
        rw [digits?_ten Nat.toDigits_ne_nil (isDigit_toDigits _), Nat.ofDigitChars_ten_toDigits]
      by_cases negative : power < 0
      · have value : -(power.natAbs : Int) = power := by omega
        have signed : powerChars "e" (some power) = 'e' :: '-' :: Nat.toDigits 10 power.natAbs := by
          simp [powerChars, negative]
        rw [signed, exponent?, if_pos (by decide), digits]
        exact congrArg some value
      · have value : (power.natAbs : Int) = power := by omega
        have unsigned : powerChars "e" (some power) = 'e' :: Nat.toDigits 10 power.natAbs := by
          simp [powerChars, negative]
        have nonempty : Nat.toDigits 10 power.natAbs ≠ [] := Nat.toDigits_ne_nil
        obtain ⟨first, others, spelled⟩ := List.exists_cons_of_ne_nil nonempty
        have digit : first.isDigit := isDigit_toDigits _ first (spelled ▸ List.mem_cons_self)
        rw [unsigned, spelled, exponent?_unsigned digit, ← spelled, digits, Option.map_some, value]
        rfl

theorem powerChars_head? (power : Option Int) (character : Char)
    (first : (powerChars "e" power).head? = some character) : character = 'e' := by
  cases power with
  | none => contradiction
  | some power => by_cases negative : power < 0 <;> simpa [powerChars, negative, eq_comm] using first

def fractionParts : List Char → List Char × List Char
  | '.' :: rest => (rest.takeWhile Char.isDigit, rest.dropWhile Char.isDigit)
  | rest => ([], rest)

theorem decimal?_eq (negative : Bool) (text : List Char) :
    decimal? negative text =
      (exponent? (fractionParts (text.dropWhile Char.isDigit)).2).bind fun exponent =>
        let digits := text.takeWhile Char.isDigit ++ (fractionParts (text.dropWhile Char.isDigit)).1
        if digits.isEmpty then none
        else Binary64.ofDecimal? negative (Nat.ofDigitChars 10 digits 0)
          (exponent - (fractionParts (text.dropWhile Char.isDigit)).1.length) := rfl

theorem fractionParts_spelling (spelling : Spelling) :
    fractionParts (pointChars spelling.fraction ++ powerChars "e" spelling.power) =
      (spelling.fraction, powerChars "e" spelling.power) := by
  have mark := powerChars_head? spelling.power
  have behind := (List.forall_mem_append.mp spelling.decimal).2
  cases spelled : spelling.fraction with
  | nil =>
      change fractionParts (powerChars "e" spelling.power) = _
      unfold fractionParts
      split
      · rename_i point
        exact absurd (mark '.' (congrArg List.head? point)) (by decide)
      · rfl
  | cons digit others =>
      obtain ⟨taken, dropped⟩ := Json.span_digits (spelled ▸ behind) fun character first =>
        mark character first ▸ rfl
      exact Prod.ext taken dropped

theorem decimal?_spelling (spelling : Spelling) (negative : Bool) :
    decimal? negative (spelling.chars "e") = spelling.number? negative := by
  have decimal := (List.forall_mem_append.mp spelling.decimal).1
  have nonempty : (spelling.whole ++ spelling.fraction).isEmpty = false := by
    simp [spelling.nonempty]
  have whole : (spelling.chars "e").takeWhile Char.isDigit = spelling.whole ∧
      (spelling.chars "e").dropWhile Char.isDigit = _ :=
    Json.span_digits decimal (Json.pointChars_ends fun character first =>
      powerChars_head? spelling.power character first ▸ rfl)
  rw [decimal?_eq, whole.1, whole.2, fractionParts_spelling, exponent?_powerChars,
    Option.bind_some]
  dsimp only
  rw [nonempty, if_neg Bool.false_ne_true]
  rfl

end Floats

section Meanings

variable {text : String}

theorem ofPlain_of_integer? {value : Int} (starts : startsNumeric text.toList)
    (integer : integer? text.toList = some value) (fits : Number.FitsWord value) :
    Meaning.ofPlain text = .int value := by
  obtain ⟨notNull, notBool, _⟩ := not_word starts
  rw [Meaning.ofPlain, notNull, notBool, integer, Option.bind_some, integerMeaning?, if_pos fits]
  rfl

theorem ofPlain_of_finite? {value : Binary64} (starts : startsNumeric text.toList)
    (noInteger : integer? text.toList = none) (canonical : hasLeadingZero text.toList = false)
    (finite : finite? text.toList = some value) : Meaning.ofPlain text = .float (some value) := by
  obtain ⟨notNull, notBool, notWord⟩ := not_word starts
  rw [Meaning.ofPlain, notNull, notBool, noInteger, Option.bind_none, floatMeaning, canonical,
    notWord, finite]
  rfl

theorem hasLeadingZero_canonical (negative : Bool) (nonempty : digits ≠ [])
    (decimal : ∀ digit ∈ digits, digit.isDigit)
    (leading : digits.head? = some '0' → digits = ['0']) :
    hasLeadingZero ((if negative then ['-'] else []) ++ digits) = false := by
  obtain ⟨first, rest, rfl⟩ := List.exists_cons_of_ne_nil nonempty
  rw [hasLeadingZero_signed negative (decimal first List.mem_cons_self)]
  split
  · rename_i zero
    obtain ⟨rfl, rfl⟩ := List.cons.inj zero
    have only := leading rfl
    simp at only
  · rfl

theorem toList_textWith_int (value : Int) (fits : Number.FitsWord value) :
    ((Number.int value fits).textWith "e").toList =
      (if decide (value < 0) then ['-'] else []) ++ Nat.toDigits 10 value.natAbs := by
  change (Number.int value fits).text.toList = _
  rw [Json.toList_text_int]
  simp only [decide_eq_true_eq]

theorem ofPlain_int (value : Int) (fits : Number.FitsWord value) :
    Meaning.ofPlain ((Number.int value fits).textWith "e") = .int value := by
  have decimal := isDigit_toDigits value.natAbs
  have nonempty : Nat.toDigits 10 value.natAbs ≠ [] := Nat.toDigits_ne_nil
  have leading : (Nat.toDigits 10 value.natAbs).head? = some '0' →
      Nat.toDigits 10 value.natAbs = ['0'] := by
    intro zero
    rcases Nat.eq_zero_or_pos value.natAbs with none | positive
    · rw [none]
      rfl
    · exact absurd zero (head?_toDigits positive)
  have canonical := hasLeadingZero_canonical (decide (value < 0)) nonempty decimal leading
  have size : magnitude? (Nat.toDigits 10 value.natAbs) = some value.natAbs := by
    rw [magnitude?_numeric fun digit member => .inl (decimal digit member),
      digits?_ten nonempty decimal, Nat.ofDigitChars_ten_toDigits]
  obtain ⟨first, rest, spelled⟩ := List.exists_cons_of_ne_nil nonempty
  have digit : first.isDigit := decimal first (spelled ▸ List.mem_cons_self)
  rw [spelled] at canonical size
  have text := toList_textWith_int value fits
  rw [spelled] at text
  apply ofPlain_of_integer?
  · rw [text]
    exact startsNumeric_signed _ digit rest
  · rw [text, integer?_signed _ digit rest canonical, size, Option.map_some, Option.some.injEq]
    simp only [decide_eq_true_eq]
    omega
  · exact fits

theorem isNumeric_pointChars {fraction : List Char} (decimal : ∀ digit ∈ fraction, digit.isDigit) :
    ∀ character ∈ pointChars fraction, IsNumeric character := by
  cases fraction with
  | nil => simp [pointChars]
  | cons digit rest =>
      exact List.forall_mem_cons.mpr
        ⟨.inr (by simp), fun character member => .inl (decimal character member)⟩

theorem isNumeric_powerChars (power : Option Int) :
    ∀ character ∈ powerChars "e" power, IsNumeric character := by
  cases power with
  | none => simp [powerChars]
  | some power =>
      intro character member
      rcases List.mem_append.mp member with mark | digit
      · have either : character = 'e' ∨ character = '-' := by split at mark <;> simp_all
        right
        rcases either with rfl | rfl <;> decide
      · exact .inl (isDigit_toDigits _ character digit)

theorem isNumeric_chars (spelling : Spelling) :
    ∀ character ∈ spelling.chars "e", IsNumeric character := by
  obtain ⟨decimal, behind⟩ := List.forall_mem_append.mp spelling.decimal
  exact List.forall_mem_append.mpr ⟨fun character member => .inl (decimal character member),
    List.forall_mem_append.mpr ⟨isNumeric_pointChars behind, isNumeric_powerChars spelling.power⟩⟩

theorem exists_undigital (spelling : Spelling) : ∃ character ∈ spelling.chars "e",
    digit? 10 character = none ∧ character.isDigit = false := by
  rcases spelling.fractional with behind | raised
  · refine ⟨'.', ?_, by decide, rfl⟩
    simp [Spelling.chars, Binary64.pointChars_of_ne_nil behind]
  · obtain ⟨power, spelled⟩ := Option.isSome_iff_exists.mp raised
    refine ⟨'e', ?_, by decide, rfl⟩
    by_cases negative : power < 0 <;> simp [Spelling.chars, spelled, powerChars, negative]

theorem ofPlain_float (value : Binary64) :
    Meaning.ofPlain (value.textWith "e") = .float (some value) := by
  obtain ⟨spelling, text, denoted⟩ := Binary64.textWith_spelled "e" value
  obtain ⟨mark, member, undigital, notDigit⟩ := exists_undigital spelling
  have numeric := isNumeric_chars spelling
  have read := decimal?_spelling spelling value.negative
  obtain ⟨first, rest, spelled, digit⟩ := Json.whole_cons spelling
    (pointChars spelling.fraction ++ powerChars "e" spelling.power)
  change spelling.chars "e" = first :: rest at spelled
  rw [spelled] at text member numeric read
  have notAll : (first :: rest).all Char.isDigit = false :=
    List.all_eq_false.mpr ⟨mark, member, by simp [notDigit]⟩
  have canonical : hasLeadingZero (value.textWith "e").toList = false := by
    rw [text, hasLeadingZero_signed _ digit rest, notAll]
    split <;> rfl
  apply ofPlain_of_finite?
  · rw [text]
    exact startsNumeric_signed _ digit rest
  · rw [text] at canonical ⊢
    rw [integer?_signed _ digit rest canonical, magnitude?_numeric numeric,
      digits?_undigital member undigital]
    rfl
  · exact canonical
  · rw [text, finite?_signed _ digit rest, read, denoted]

theorem textWith_numeric (number : Number) : ∃ (negative : Bool) (first : Char) (rest : List Char),
    (number.textWith "e").toList = (if negative then ['-'] else []) ++ first :: rest ∧
      first.isDigit ∧ ∀ character ∈ first :: rest, IsNumeric character := by
  cases number with
  | int value fits =>
      have nonempty : Nat.toDigits 10 value.natAbs ≠ [] := Nat.toDigits_ne_nil
      obtain ⟨first, rest, spelled⟩ := List.exists_cons_of_ne_nil nonempty
      have decimal := isDigit_toDigits value.natAbs
      rw [spelled] at decimal
      exact ⟨decide (value < 0), first, rest, spelled ▸ toList_textWith_int value fits,
        decimal first List.mem_cons_self, fun character member => .inl (decimal character member)⟩
  | float value =>
      obtain ⟨spelling, text, _⟩ := Binary64.textWith_spelled "e" value
      obtain ⟨first, rest, spelled, digit⟩ := Json.whole_cons spelling
        (pointChars spelling.fraction ++ powerChars "e" spelling.power)
      have numeric := isNumeric_chars spelling
      change spelling.chars "e" = first :: rest at spelled
      rw [spelled] at text numeric
      exact ⟨value.negative, first, rest, text, digit, numeric⟩

end Meanings

end Reshape.Yaml
