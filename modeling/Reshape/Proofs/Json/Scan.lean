import Reshape.Json.Compact
import Reshape.Json.Token
import Reshape.Proofs.Path.Index
import Reshape.Proofs.Value.Data

namespace Reshape.Json

section Strings

theorem hexDigit?_digitChar {digit : Nat} (small : digit < 16) :
    Text.hexDigit? digit.digitChar = some digit := by
  revert digit
  decide

theorem hexWord?_low {number : Nat} (low : number < 0x20) (rest : List Char) :
    hexWord? ('0' :: '0' :: (number / 16).digitChar :: (number % 16).digitChar :: rest) =
      some (number, rest) := by
  have zero : Text.hexDigit? '0' = some 0 := by decide
  have upper : Text.hexDigit? (number / 16).digitChar = some (number / 16) :=
    hexDigit?_digitChar (by omega)
  have lower : Text.hexDigit? (number % 16).digitChar = some (number % 16) :=
    hexDigit?_digitChar (by omega)
  have whole : 16 * (number / 16) + number % 16 = number := Nat.div_add_mod number 16
  simp [hexWord?, zero, upper, lower, whole]

theorem unicodeEscape?_low {character : Char} (low : character.toNat < 0x20) (rest : List Char) :
    unicodeEscape? ('0' :: '0' :: (character.toNat / 16).digitChar ::
      (character.toNat % 16).digitChar :: rest) = some (character, rest) := by
  have notLow : ¬ (0xDC00 ≤ character.toNat ∧ character.toNat ≤ 0xDFFF) := by omega
  have notHigh : ¬ (0xD800 ≤ character.toNat ∧ character.toNat ≤ 0xDBFF) := by omega
  simp [unicodeEscape?, hexWord?_low low, notLow, notHigh, Char.ofNat_toNat]

theorem character?_escape (character : Char) (rest : List Char) :
    character? (escape character ++ rest) = some (character, rest) ∧
      (escape character ++ rest).head? ≠ some '"' := by
  unfold escape
  iterate 7
    split
    · simp_all [character?]
  split
  · rename_i low
    exact ⟨unicodeEscape?_low low rest, by simp⟩
  · simp_all [character?]

theorem stringBody?_of_character {text rest : List Char} {character : Char}
    (found : character? text = some (character, rest)) (unquoted : text.head? ≠ some '"')
    (read : List Char) : stringBody? text read = stringBody? rest (character :: read) := by
  rw [stringBody?.eq_def]
  split
  · simp at unquoted
  · split
    · rename_i again
      rw [found, Option.some.injEq, Prod.mk.injEq] at again
      rw [again.1, again.2]
    · rename_i none
      simp [found] at none

theorem stringBody?_escape (text rest read : List Char) :
    stringBody? (text.flatMap escape ++ '"' :: rest) read =
      some (String.ofList (read.reverse ++ text), rest) := by
  induction text generalizing read with
  | nil => simp [stringBody?]
  | cons character text ih =>
      rw [List.flatMap_cons, List.append_assoc]
      obtain ⟨found, unquoted⟩ := character?_escape character (text.flatMap escape ++ '"' :: rest)
      rw [stringBody?_of_character found unquoted, ih]
      simp

end Strings

section Numbers

/-- What can stand behind a number without being taken for a part of it. -/
def Bounded (rest : List Char) : Prop :=
  ∀ character, rest.head? = some character →
    character.isDigit = false ∧ character ∉ ['.', 'e', 'E']

theorem span_digits {digits rest : List Char} (decimal : ∀ digit ∈ digits, digit.isDigit)
    (ends : ∀ character, rest.head? = some character → character.isDigit = false) :
    (digits ++ rest).takeWhile Char.isDigit = digits ∧
      (digits ++ rest).dropWhile Char.isDigit = rest := by
  have stop : rest.takeWhile Char.isDigit = [] ∧ rest.dropWhile Char.isDigit = rest := by
    cases rest with
    | nil => simp
    | cons character rest => simp [ends character rfl]
  rw [List.takeWhile_append_of_pos decimal, List.dropWhile_append_of_pos decimal, stop.1, stop.2,
    List.append_nil]
  exact ⟨rfl, rfl⟩

theorem digits?_append {digits rest : List Char} (nonempty : digits ≠ [])
    (decimal : ∀ digit ∈ digits, digit.isDigit)
    (ends : ∀ character, rest.head? = some character → character.isDigit = false) :
    digits? (digits ++ rest) = some (digits, rest) := by
  obtain ⟨taken, dropped⟩ := span_digits decimal ends
  simp [digits?, taken, dropped, nonempty]

theorem head?_toDigits_append (number : Nat) (rest : List Char) :
    (Nat.toDigits 10 number ++ rest).head? = (Nat.toDigits 10 number).head? := by
  have nonempty : Nat.toDigits 10 number ≠ [] := Nat.toDigits_ne_nil
  obtain ⟨first, others, spelled⟩ := List.exists_cons_of_ne_nil nonempty
  rw [spelled]
  rfl

theorem wholePart?_append {digits rest : List Char} (nonempty : digits ≠ [])
    (decimal : ∀ digit ∈ digits, digit.isDigit)
    (canonical : digits.head? = some '0' → digits = ['0'])
    (ends : ∀ character, rest.head? = some character → character.isDigit = false) :
    wholePart? (digits ++ rest) = some (digits, rest) := by
  obtain ⟨first, others, rfl⟩ := List.exists_cons_of_ne_nil nonempty
  unfold wholePart?
  split
  · rename_i after zero
    obtain ⟨rfl, rfl⟩ := List.cons.inj zero
    obtain ⟨_, rfl⟩ := List.cons.inj (canonical rfl)
    rfl
  · exact digits?_append nonempty decimal ends

theorem wholePart?_toDigits (number : Nat) {rest : List Char} (bounded : Bounded rest) :
    wholePart? (Nat.toDigits 10 number ++ rest) = some (Nat.toDigits 10 number, rest) := by
  apply wholePart?_append Nat.toDigits_ne_nil
  · exact isDigit_toDigits number
  · intro leading
    rcases Nat.eq_zero_or_pos number with rfl | positive
    · rfl
    · exact absurd leading (head?_toDigits positive)
  · exact fun character first => (bounded character first).1

theorem fraction?_bounded {rest : List Char} (bounded : Bounded rest) :
    fraction? rest = some ([], rest) := by
  unfold fraction?
  split
  · exact absurd (bounded '.' rfl).2 (by decide)
  · rfl

theorem exponent?_bounded {rest : List Char} (bounded : Bounded rest) :
    exponent? rest = some (none, rest) := by
  unfold exponent?
  split
  · rename_i character rest
    have letter := (bounded character rfl).2
    simp_all
  · rfl

theorem negated_toDigits (number : Nat) (rest : List Char) :
    negated (Nat.toDigits 10 number ++ rest) = (false, Nat.toDigits 10 number ++ rest) := by
  unfold negated
  split
  · rename_i after minus
    have first : (Nat.toDigits 10 number).head? = some '-' := by
      rw [← head?_toDigits_append number rest, minus]
      rfl
    have digit := isDigit_toDigits number '-' (List.mem_of_head? first)
    contradiction
  · rfl

theorem number?_of_digits {text digits rest : List Char} {negative : Bool} {number : Number}
    (sign : negated text = (negative, digits ++ rest))
    (whole : wholePart? (digits ++ rest) = some (digits, rest)) (bounded : Bounded rest)
    (denotes : numberOfParts? negative digits [] none = some number) :
    number? text = some (number, rest) := by
  simp only [number?, sign, whole, fraction?_bounded bounded, exponent?_bounded bounded,
    Option.bind_eq_bind, Option.bind_some, denotes, Option.map_some]

theorem numberOfParts?_toDigits (negative : Bool) (number : Nat) {value : Int}
    (fits : Number.FitsWord value) (signed : (if negative then -(number : Int) else number) = value)
    (nonzero : (negative && number == 0) = false) :
    numberOfParts? negative (Nat.toDigits 10 number) [] none = some (.int value fits) := by
  subst signed
  simp only [numberOfParts?, List.append_nil, Nat.ofDigitChars_ten_toDigits, List.isEmpty_nil,
    Option.isNone_none, Bool.and_self, nonzero, Bool.not_false, ↓reduceIte, dif_pos fits]

theorem toList_text_int (value : Int) (fits : Number.FitsWord value) :
    (Number.int value fits).text.toList =
      (if value < 0 then ['-'] else []) ++ Nat.toDigits 10 value.natAbs := by
  cases value with
  | ofNat number =>
      have text : (Number.int (Int.ofNat number) fits).text = toString number := rfl
      have positive : ¬ Int.ofNat number < 0 := Int.not_lt.mpr (Int.natCast_nonneg number)
      rw [text, toList_toString, if_neg positive]
      rfl
  | negSucc number =>
      have text : (Number.int (Int.negSucc number) fits).text = "-" ++ toString (number + 1) := rfl
      rw [text, String.toList_append, toList_toString, if_pos (Int.negSucc_lt_zero number)]
      rfl

theorem number?_int (value : Int) (fits : Number.FitsWord value) {rest : List Char}
    (bounded : Bounded rest) :
    number? ((Number.int value fits).text.toList ++ rest) = some (.int value fits, rest) := by
  rw [toList_text_int]
  have whole := wholePart?_toDigits value.natAbs bounded
  by_cases negative : value < 0
  · rw [if_pos negative]
    have signed : -(value.natAbs : Int) = value := by omega
    have nonzero : (value.natAbs == 0) = false := beq_eq_false_iff_ne.mpr (by omega)
    exact number?_of_digits rfl whole bounded
      (numberOfParts?_toDigits true value.natAbs fits signed nonzero)
  · rw [if_neg negative, List.nil_append]
    have unsigned : (value.natAbs : Int) = value := by omega
    exact number?_of_digits (negated_toDigits _ _) whole bounded
      (numberOfParts?_toDigits false value.natAbs fits unsigned rfl)

end Numbers

section Tokens

theorem scan?_of_next? {first : Char} {tail rest : List Char} {token : Token}
    (visible : isBlank first = false) (read : Token.next? (first :: tail) = some (token, rest)) :
    Token.scan? (first :: tail) = (Token.scan? rest).map (token :: ·) := by
  rw [Token.scan?.eq_def]
  simp only [visible, Bool.false_eq_true, ↓reduceIte]
  split
  · rename_i again
    rw [read, Option.some.injEq, Prod.mk.injEq] at again
    rw [again.1, again.2]
  · rename_i none
    simp [read] at none

theorem next?_of_number? {first : Char} {tail rest : List Char} {number : Number}
    (starts : first = '-' ∨ first.isDigit) (read : number? (first :: tail) = some (number, rest)) :
    Token.next? (first :: tail) = some (.number number, rest) := by
  rw [Token.next?.eq_def]
  split
  case h_11 => rw [read, Option.map_some]
  all_goals
    rename_i same
    rw [(List.cons.inj same).1] at starts
    exact absurd starts (by decide)

theorem isBlank_digit {first : Char} (digit : first.isDigit) : isBlank first = false := by
  simp [isBlank, ne_of_isDigit digit]

theorem text_int_cons (value : Int) (fits : Number.FitsWord value) :
    ∃ first rest, (Number.int value fits).text.toList = first :: rest ∧
      (first = '-' ∨ first.isDigit) ∧ isBlank first = false := by
  rw [toList_text_int]
  by_cases negative : value < 0
  · exact ⟨'-', Nat.toDigits 10 value.natAbs, by rw [if_pos negative]; rfl, by decide, by decide⟩
  · have nonempty : Nat.toDigits 10 value.natAbs ≠ [] := Nat.toDigits_ne_nil
    obtain ⟨first, rest, spelled⟩ := List.exists_cons_of_ne_nil nonempty
    have digit : first.isDigit := isDigit_toDigits _ first (spelled ▸ List.mem_cons_self)
    exact ⟨first, rest, by rw [if_neg negative, spelled]; rfl, .inr digit, isBlank_digit digit⟩

/-- A text is scanned to some tokens, up to what stands behind it. -/
def Spells (text : List Char) (tokens : List Token) : Prop :=
  ∀ rest, Bounded rest → Token.scan? (text ++ rest) = (Token.scan? rest).map (tokens ++ ·)

namespace Spells

variable {text others : List Char} {tokens more : List Token}

theorem nil : Spells [] [] := fun rest _ => by simp

theorem of_next? {first : Char} {tail : List Char} {token : Token}
    (visible : isBlank first = false)
    (read : ∀ rest, Bounded rest → Token.next? (first :: tail ++ rest) = some (token, rest)) :
    Spells (first :: tail) [token] := fun rest bounded =>
  scan?_of_next? visible (read rest bounded)

theorem mark {character : Char} {token : Token} (visible : isBlank character = false)
    (read : ∀ rest, Token.next? (character :: rest) = some (token, rest))
    (body : Spells text tokens) : Spells (character :: text) (token :: tokens) := by
  intro rest bounded
  rw [List.cons_append, scan?_of_next? visible (read _), body rest bounded, Option.map_map]
  rfl

theorem append (first : Spells text tokens) (second : Spells others more)
    (stops : ∀ rest, Bounded rest → Bounded (others ++ rest)) :
    Spells (text ++ others) (tokens ++ more) := by
  intro rest bounded
  rw [List.append_assoc, first _ (stops rest bounded), second rest bounded, Option.map_map]
  simp [Function.comp_def]

theorem quoted (name : String) (body : Spells text tokens) :
    Spells (Json.quoted name ++ text) (.string name :: tokens) := by
  intro rest bounded
  have read := stringBody?_escape name.toList (text ++ rest) []
  rw [List.reverse_nil, List.nil_append, String.ofList_toList] at read
  have spelled : Json.quoted name ++ text ++ rest =
      '"' :: (name.toList.flatMap escape ++ '"' :: (text ++ rest)) := by simp [Json.quoted]
  have next : Token.next? ('"' :: (name.toList.flatMap escape ++ '"' :: (text ++ rest))) =
      some (.string name, text ++ rest) := by
    rw [Token.next?, read]
    rfl
  rw [spelled, scan?_of_next? (by decide) next, body rest bounded, Option.map_map]
  rfl

theorem number {number : Number} (whole : number.Whole) :
    Spells number.text.toList [.number number] := by
  cases number with
  | float => exact whole.elim
  | int value fits =>
      obtain ⟨first, tail, spelled, starts, visible⟩ := text_int_cons value fits
      rw [spelled]
      refine of_next? visible fun rest bounded => next?_of_number? starts ?_
      have read := number?_int value fits bounded
      rwa [spelled] at read

end Spells

end Tokens

section Views

mutual

/-- The tokens that spell a view. -/
def tokens : View → List Token
  | .null => [.null]
  | .bool value => [.bool value]
  | .number value => [.number value]
  | .string value => [.string value]
  | .list items => .openList :: (tokensOfItems items ++ [.closeList])
  | .map entries => .openMap :: (tokensOfEntries entries ++ [.closeMap])
  | .record _ entries => .openMap :: (tokensOfEntries entries ++ [.closeMap])

def tokensOfItems : List View → List Token
  | [] => []
  | [item] => tokens item
  | item :: rest => tokens item ++ .comma :: tokensOfItems rest

def tokensOfEntries : List (String × View) → List Token
  | [] => []
  | [(name, item)] => .string name :: .colon :: tokens item
  | (name, item) :: rest => .string name :: .colon :: (tokens item ++ .comma :: tokensOfEntries rest)

end

theorem bounded_cons {character : Char} (mark : character ∈ [',', ']', '\x7d']) (rest : List Char) :
    Bounded (character :: rest) := by
  intro first same
  cases same
  simp only [List.mem_cons, List.not_mem_nil, or_false] at mark
  rcases mark with rfl | rfl | rfl <;> decide

mutual

theorem spells_chars : (view : View) → view.FloatFree → Spells view.chars (tokens view)
  | .null, _ => .of_next? (by decide) fun _ _ => rfl
  | .bool true, _ => .of_next? (by decide) fun _ _ => rfl
  | .bool false, _ => .of_next? (by decide) fun _ _ => rfl
  | .number _, whole => .number whole
  | .string value, _ => by
      have body := Spells.nil.quoted value
      rwa [List.append_nil] at body
  | .list items, each =>
      .mark (by decide) (fun _ => rfl) <| (spells_charsOfItems items each).append
        (.mark (by decide) (fun _ => rfl) .nil) (fun _ _ => bounded_cons (by decide) _)
  | .map entries, each =>
      .mark (by decide) (fun _ => rfl) <| (spells_charsOfEntries entries each).append
        (.mark (by decide) (fun _ => rfl) .nil) (fun _ _ => bounded_cons (by decide) _)
  | .record _ entries, each =>
      .mark (by decide) (fun _ => rfl) <| (spells_charsOfEntries entries each).append
        (.mark (by decide) (fun _ => rfl) .nil) (fun _ _ => bounded_cons (by decide) _)

theorem spells_charsOfItems : (items : List View) → View.ItemsFloatFree items →
    Spells (View.charsOfItems items) (tokensOfItems items)
  | [], _ => .nil
  | [item], ⟨first, _⟩ => spells_chars item first
  | item :: next :: rest, ⟨first, others⟩ =>
      (spells_chars item first).append
        (.mark (by decide) (fun _ => rfl) (spells_charsOfItems (next :: rest) others))
        (fun _ _ => bounded_cons (by decide) _)

theorem spells_charsOfEntries : (entries : List (String × View)) →
    View.EntriesFloatFree entries → Spells (View.charsOfEntries entries) (tokensOfEntries entries)
  | [], _ => .nil
  | [(name, item)], ⟨first, _⟩ => .quoted name <| .mark (by decide) (fun _ => rfl) <|
      spells_chars item first
  | (name, item) :: next :: rest, ⟨first, others⟩ => by
      have behind : Spells (',' :: View.charsOfEntries (next :: rest))
          (.comma :: tokensOfEntries (next :: rest)) :=
        .mark (by decide) (fun _ => rfl) (spells_charsOfEntries (next :: rest) others)
      rw [View.charsOfEntries, tokensOfEntries, List.append_assoc]
      · exact .quoted name <| .mark (by decide) (fun _ => rfl) <|
          (spells_chars item first).append behind fun _ _ => bounded_cons (by decide) _
      · simp
      · simp

end

end Views

end Reshape.Json
