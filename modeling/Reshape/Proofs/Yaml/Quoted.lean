import Reshape.Yaml.Printer
import Reshape.Yaml.Text

namespace Reshape.Yaml

section DoubleQuotes

theorem digit?_upperHexDigit {digit : Nat} (small : digit < 16) :
    digit? 16 (upperHexDigit digit) = some digit := by
  revert digit
  decide

theorem foldlM_hexDigits (count : Nat) {value : Nat} (bound : value < Nat.pow 16 count) :
    (hexDigits count value).foldlM
      (fun number character => (digit? 16 character).map (16 * number + ·)) 0 = some value := by
  induction count generalizing value with
  | zero => simp_all [hexDigits]
  | succ count ih =>
      have front : value / 16 < Nat.pow 16 count :=
        Nat.div_lt_of_lt_mul (Nat.lt_of_lt_of_eq bound Nat.pow_succ')
      have last : digit? 16 (upperHexDigit (value % 16)) = some (value % 16) :=
        digit?_upperHexDigit (Nat.mod_lt value (by decide))
      have whole : 16 * (value / 16) + value % 16 = value := Nat.div_add_mod value 16
      simp [hexDigits, List.foldlM_append, ih front, last, whole]

theorem length_hexDigits (count value : Nat) : (hexDigits count value).length = count := by
  induction count generalizing value with
  | zero => rfl
  | succ count ih => simp [hexDigits, ih]

def hexCharacter? (count : Nat) (text : List Char) : Option (Char × List Char) :=
  (digits? 16 (text.take count)).map fun number => (Char.ofNat number, text.drop count)

def unescape? : List Char → Option (Char × List Char)
  | '\\' :: 'x' :: rest => hexCharacter? 2 rest
  | '\\' :: 'u' :: rest => hexCharacter? 4 rest
  | '\\' :: 'U' :: rest => hexCharacter? 8 rest
  | '\\' :: mark :: rest => (escapedLetter? mark).map (·, rest)
  | character :: rest => some (character, rest)
  | [] => none

theorem hexCharacter?_hexDigits {character : Char} {count : Nat} (positive : 0 < count)
    (bound : character.toNat < Nat.pow 16 count) (rest : List Char) :
    hexCharacter? count (hexDigits count character.toNat ++ rest) = some (character, rest) := by
  have length := length_hexDigits count character.toNat
  have digits : digits? 16 (hexDigits count character.toNat) = some character.toNat := by
    rw [← foldlM_hexDigits count bound]
    unfold digits?
    split
    · rename_i empty
      rw [empty] at length
      simp at length
      omega
    · rfl
  rw [hexCharacter?, List.take_left' length, List.drop_left' length, digits, Option.map_some,
    Char.ofNat_toNat]

theorem unescape?_escape (character : Char) (rest : List Char) :
    unescape? (escape character ++ rest) = some (character, rest) := by
  unfold escape
  dsimp only
  split
  case h_15 =>
    split
    · unfold unescape?
      split <;> simp_all
    · split
      · rename_i small
        exact hexCharacter?_hexDigits (by decide) small rest
      · split
        · rename_i small
          exact hexCharacter?_hexDigits (by decide) small rest
        · have bound : character.toNat < 0x110000 := by
            rcases character.valid with low | ⟨_, high⟩
            · exact Nat.lt_trans low (by decide)
            · exact high
          exact hexCharacter?_hexDigits (by decide) (Nat.lt_trans bound (by decide)) rest
  all_goals rfl

theorem escape_cons (character : Char) :
    ∃ first others, escape character = first :: others ∧ first ≠ '"' := by
  unfold escape
  dsimp only
  split
  case h_15 =>
    split
    · exact ⟨character, [], rfl, by assumption⟩
    · split
      · exact ⟨'\\', _, rfl, by decide⟩
      · split <;> exact ⟨'\\', _, rfl, by decide⟩
  all_goals exact ⟨'\\', _, rfl, by decide⟩

theorem escapes_unique {left right leftRest rightRest : List Char}
    (same : left.flatMap escape ++ '"' :: leftRest = right.flatMap escape ++ '"' :: rightRest) :
    left = right ∧ leftRest = rightRest := by
  induction left generalizing right with
  | nil =>
      cases right with
      | nil => exact ⟨rfl, (List.cons.inj same).2⟩
      | cons character others =>
          obtain ⟨first, more, spelled, unquoted⟩ := escape_cons character
          rw [List.flatMap_cons, spelled] at same
          exact absurd (List.cons.inj same).1.symm unquoted
  | cons character others ih =>
      cases right with
      | nil =>
          obtain ⟨first, more, spelled, unquoted⟩ := escape_cons character
          rw [List.flatMap_cons, spelled] at same
          exact absurd (List.cons.inj same).1 unquoted
      | cons otherCharacter more =>
          have read := congrArg unescape? same
          simp only [List.flatMap_cons, List.append_assoc, unescape?_escape, Option.some.injEq,
            Prod.mk.injEq] at read
          obtain ⟨rfl, rfl⟩ := ih read.2
          exact ⟨congrArg (· :: others) read.1, rfl⟩

end DoubleQuotes

section SingleQuotes

variable {indent : Nat} {afterBreak : Bool} {left right leftRest rightRest : List Char}

theorem not_space_of_isBreak {character : Char} (breaks : isBreak character) : character ≠ ' ' := by
  rintro rfl
  contradiction

theorem spaces_ne_break {first character : Char} (breaks : isBreak first)
    (unbroken : isBreak character = false) {count : Nat} {rest others : List Char} :
    spaces count ++ character :: rest ≠ first :: others := by
  intro same
  cases count with
  | zero =>
      rw [(List.cons.inj same).1, breaks] at unbroken
      contradiction
  | succ count => exact not_space_of_isBreak breaks (List.cons.inj same).1.symm

theorem indented_ne_break {first character : Char} (breaks : isBreak first)
    (unbroken : isBreak character = false) {rest others : List Char} :
    (if afterBreak then spaces indent else []) ++ character :: rest ≠ first :: others := by
  split
  · exact spaces_ne_break breaks unbroken
  · have unindented : spaces 0 ++ character :: rest ≠ first :: others :=
      spaces_ne_break breaks unbroken
    exact unindented

theorem quotedChars_break {character : Char} (breaks : isBreak character) (rest : List Char) :
    quotedChars indent afterBreak (character :: rest) =
      character :: quotedChars indent true rest := by
  rw [quotedChars, if_pos breaks]

theorem quotedChars_cons {character : Char} (unbroken : isBreak character = false)
    (rest : List Char) : quotedChars indent afterBreak (character :: rest) =
      (if afterBreak then spaces indent else []) ++
        character :: ((if character == '\'' then ['\''] else []) ++
          quotedChars indent false rest) := by
  rw [quotedChars, if_neg (by simp [unbroken]), List.append_assoc, List.cons_append]

theorem break_ne {first second : Char} (breaks : isBreak first)
    (unbroken : isBreak second = false) (others more : List Char) :
    quotedChars indent afterBreak (first :: others) ++ leftRest ≠
      quotedChars indent afterBreak (second :: more) ++ rightRest := by
  rw [quotedChars_break breaks, quotedChars_cons unbroken, List.append_assoc]
  exact (indented_ne_break breaks unbroken).symm

theorem closing_ne (leftEnds : leftRest.head? ≠ some '\'') (character : Char)
    (others : List Char) : quotedChars indent afterBreak [] ++ leftRest ≠
      quotedChars indent afterBreak (character :: others) ++ rightRest := by
  rw [quotedChars, List.append_assoc]
  cases breaks : isBreak character with
  | true =>
      rw [quotedChars_break breaks]
      exact indented_ne_break breaks rfl
  | false =>
      rw [quotedChars_cons breaks, List.append_assoc]
      intro same
      obtain ⟨rfl, behind⟩ := List.cons.inj (List.append_cancel_left same)
      exact leftEnds (congrArg List.head? behind)

theorem quotedChars_unique (leftEnds : leftRest.head? ≠ some '\'')
    (rightEnds : rightRest.head? ≠ some '\'')
    (same : quotedChars indent afterBreak left ++ leftRest =
      quotedChars indent afterBreak right ++ rightRest) : left = right ∧ leftRest = rightRest := by
  induction left generalizing right afterBreak with
  | nil =>
      cases right with
      | nil => exact ⟨rfl, List.append_cancel_left same⟩
      | cons character others => exact absurd same (closing_ne leftEnds character others)
  | cons first others ih =>
      cases right with
      | nil => exact absurd same.symm (closing_ne rightEnds first others)
      | cons second more =>
          cases firstBreaks : isBreak first <;> cases secondBreaks : isBreak second
          case true.true =>
            rw [quotedChars_break firstBreaks, quotedChars_break secondBreaks] at same
            obtain ⟨rfl, behind⟩ := List.cons.inj same
            obtain ⟨rfl, rfl⟩ := ih behind
            exact ⟨rfl, rfl⟩
          case false.false =>
            rw [quotedChars_cons firstBreaks, quotedChars_cons secondBreaks, List.append_assoc,
              List.append_assoc, List.cons_append, List.cons_append, List.append_assoc,
              List.append_assoc] at same
            obtain ⟨rfl, behind⟩ := List.cons.inj (List.append_cancel_left same)
            obtain ⟨rfl, rfl⟩ := ih (List.append_cancel_left behind)
            exact ⟨rfl, rfl⟩
          case true.false => exact absurd same (break_ne firstBreaks secondBreaks others more)
          case false.true => exact absurd same.symm (break_ne secondBreaks firstBreaks more others)

end SingleQuotes

end Reshape.Yaml
