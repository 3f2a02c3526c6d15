import Reshape.Number
import Reshape.Text.Hex

namespace Reshape.Json

inductive Token where
  | openList
  | closeList
  | openMap
  | closeMap
  | comma
  | colon
  | null
  | bool (value : Bool)
  | string (value : String)
  | number (value : Number)
deriving DecidableEq

def isBlank (character : Char) : Bool :=
  character == ' ' || character == '\n' || character == '\r' || character == '\t'

def hexWord? : List Char → Option (Nat × List Char)
  | first :: second :: third :: fourth :: rest => do
      let value := [← Text.hexDigit? first, ← Text.hexDigit? second,
        ← Text.hexDigit? third, ← Text.hexDigit? fourth]
      return (value.foldl (fun word digit => 16 * word + digit) 0, rest)
  | _ => none

theorem hexWord?_shorter {text rest : List Char} {unit : Nat}
    (read : hexWord? text = some (unit, rest)) : rest.length < text.length := by
  unfold hexWord? at read
  split at read
  · simp only [Option.bind_eq_bind, Option.bind_eq_some_iff, Option.pure_def, Option.some.injEq,
      Prod.mk.injEq] at read
    obtain ⟨_, _, _, _, _, _, _, _, _, rfl⟩ := read
    simp only [List.length_cons]
    omega
  · contradiction

/-- The character after `\u`. A high surrogate needs a low one in a second escape, and a
low one does not stand alone. -/
def unicodeEscape? (text : List Char) : Option (Char × List Char) := do
  let (unit, rest) ← hexWord? text
  if 0xDC00 ≤ unit && unit ≤ 0xDFFF then none
  else if 0xD800 ≤ unit && unit ≤ 0xDBFF then
    match rest with
    | '\\' :: 'u' :: more =>
        let (low, rest) ← hexWord? more
        if 0xDC00 ≤ low && low ≤ 0xDFFF then
          some (Char.ofNat (0x10000 + (unit - 0xD800) * 0x400 + (low - 0xDC00)), rest)
        else none
    | _ => none
  else some (Char.ofNat unit, rest)

theorem unicodeEscape?_shorter {text rest : List Char} {character : Char}
    (read : unicodeEscape? text = some (character, rest)) : rest.length < text.length := by
  simp only [unicodeEscape?, Option.bind_eq_bind, Option.bind_eq_some_iff] at read
  obtain ⟨⟨unit, after⟩, high, read⟩ := read
  have shorter := hexWord?_shorter high
  split at read
  · contradiction
  · split at read
    · split at read
      · rename_i pair
        obtain ⟨⟨low, afterLow⟩, second, read⟩ := Option.bind_eq_some_iff.mp read
        have shorterLow := hexWord?_shorter second
        split at read
        · simp only [Option.some.injEq, Prod.mk.injEq] at read
          obtain ⟨_, rfl⟩ := read
          have length : after.length = _ := congrArg List.length pair
          simp only [List.length_cons] at length
          omega
        · contradiction
      · contradiction
    · simp only [Option.some.injEq, Prod.mk.injEq] at read
      obtain ⟨_, rfl⟩ := read
      exact shorter

def character? : List Char → Option (Char × List Char)
  | '\\' :: 'u' :: rest => unicodeEscape? rest
  | '\\' :: letter :: rest =>
      match letter with
      | '"' => some ('"', rest)
      | '\\' => some ('\\', rest)
      | '/' => some ('/', rest)
      | 'b' => some ('\x08', rest)
      | 'f' => some ('\x0c', rest)
      | 'n' => some ('\n', rest)
      | 'r' => some ('\r', rest)
      | 't' => some ('\t', rest)
      | _ => none
  | '\\' :: [] => none
  | character :: rest => if character.toNat < 0x20 then none else some (character, rest)
  | [] => none

theorem character?_shorter {text rest : List Char} {character : Char}
    (read : character? text = some (character, rest)) : rest.length < text.length := by
  unfold character? at read
  split at read
  · have shorter := unicodeEscape?_shorter read
    simp only [List.length_cons]
    omega
  · split at read
    case h_9 => contradiction
    all_goals
      simp only [Option.some.injEq, Prod.mk.injEq] at read
      obtain ⟨_, rfl⟩ := read
      simp only [List.length_cons]
      omega
  · contradiction
  · split at read
    · contradiction
    · simp only [Option.some.injEq, Prod.mk.injEq] at read
      obtain ⟨_, rfl⟩ := read
      simp
  · contradiction

def stringBody? (text : List Char) (read : List Char) : Option (String × List Char) :=
  match text with
  | '"' :: rest => some (String.ofList read.reverse, rest)
  | text =>
      match _ : character? text with
      | some (character, rest) => stringBody? rest (character :: read)
      | none => none
termination_by text.length
decreasing_by exact character?_shorter (by assumption)

theorem stringBody?_shorter {text read rest : List Char} {value : String}
    (body : stringBody? text read = some (value, rest)) : rest.length < text.length := by
  fun_induction stringBody? text read with
  | case1 read after =>
      simp only [Option.some.injEq, Prod.mk.injEq] at body
      obtain ⟨_, rfl⟩ := body
      simp
  | case2 read text _ character after found ih =>
      exact Nat.lt_trans (ih body) (character?_shorter found)
  | case3 => contradiction

def digits? (text : List Char) : Option (List Char × List Char) :=
  let digits := text.takeWhile Char.isDigit
  if digits.isEmpty then none else some (digits, text.dropWhile Char.isDigit)

theorem digits?_shorter {text digits rest : List Char} (read : digits? text = some (digits, rest)) :
    rest.length < text.length := by
  simp only [digits?] at read
  split at read
  · contradiction
  · rename_i some_digits
    simp only [Option.some.injEq, Prod.mk.injEq] at read
    obtain ⟨rfl, rfl⟩ := read
    have parts :=
      congrArg List.length (List.takeWhile_append_dropWhile (p := Char.isDigit) (l := text))
    rw [List.length_append] at parts
    have positive : 0 < (text.takeWhile Char.isDigit).length :=
      List.length_pos_iff.mpr (by simpa using some_digits)
    omega

/-- The whole part of a number: a zero, or digits that do not start with one. -/
def wholePart? : List Char → Option (List Char × List Char)
  | '0' :: rest => some (['0'], rest)
  | text => digits? text

theorem wholePart?_shorter {text digits rest : List Char}
    (read : wholePart? text = some (digits, rest)) : rest.length < text.length := by
  unfold wholePart? at read
  split at read
  · simp only [Option.some.injEq, Prod.mk.injEq] at read
    obtain ⟨_, rfl⟩ := read
    simp
  · exact digits?_shorter read

def fraction? : List Char → Option (List Char × List Char)
  | '.' :: rest => digits? rest
  | text => some ([], text)

theorem fraction?_not_longer {text digits rest : List Char}
    (read : fraction? text = some (digits, rest)) : rest.length ≤ text.length := by
  unfold fraction? at read
  split at read
  · have shorter := digits?_shorter read
    simp only [List.length_cons]
    omega
  · simp only [Option.some.injEq, Prod.mk.injEq] at read
    obtain ⟨_, rfl⟩ := read
    exact Nat.le_refl _

def signed : List Char → Bool × List Char
  | '-' :: rest => (true, rest)
  | '+' :: rest => (false, rest)
  | rest => (false, rest)

theorem signed_not_longer (text : List Char) : (signed text).2.length ≤ text.length := by
  unfold signed
  split <;> simp

def exponent? : List Char → Option (Option Int × List Char)
  | letter :: rest =>
      if letter == 'e' || letter == 'E' then do
        let (digits, after) ← digits? (signed rest).2
        let size : Int := Nat.ofDigitChars 10 digits 0
        return (some (if (signed rest).1 then -size else size), after)
      else some (none, letter :: rest)
  | [] => some (none, [])

theorem exponent?_not_longer {text rest : List Char} {power : Option Int}
    (read : exponent? text = some (power, rest)) : rest.length ≤ text.length := by
  unfold exponent? at read
  split at read
  · rename_i letter after
    split at read
    · simp only [Option.bind_eq_bind, Option.bind_eq_some_iff] at read
      obtain ⟨⟨digits, final⟩, found, read⟩ := read
      simp only [Option.pure_def, Option.some.injEq, Prod.mk.injEq] at read
      obtain ⟨_, rfl⟩ := read
      have shorter := digits?_shorter found
      have sign := signed_not_longer after
      simp only [List.length_cons]
      omega
    · simp only [Option.some.injEq, Prod.mk.injEq] at read
      obtain ⟨_, rfl⟩ := read
      exact Nat.le_refl _
  · simp only [Option.some.injEq, Prod.mk.injEq] at read
    obtain ⟨_, rfl⟩ := read
    exact Nat.le_refl _

def negated : List Char → Bool × List Char
  | '-' :: rest => (true, rest)
  | rest => (false, rest)

theorem negated_not_longer (text : List Char) : (negated text).2.length ≤ text.length := by
  unfold negated
  split <;> simp

/-- The number that the parts of its text denote. Digits alone denote an integer, which is
exact when it fits a word; `-0`, fractions and powers of ten denote the nearest binary64,
and must not overflow it. -/
def numberOfParts? (negative : Bool) (whole fraction : List Char) (power : Option Int) :
    Option Number :=
  let digits := Nat.ofDigitChars 10 (whole ++ fraction) 0
  let float := (Binary64.ofDecimal? negative digits (power.getD 0 - fraction.length)).map .float
  if fraction.isEmpty && power.isNone && !(negative && digits == 0) then
    let value : Int := if negative then -(digits : Int) else digits
    if fits : Number.FitsWord value then some (.int value fits) else float
  else float

def number? (text : List Char) : Option (Number × List Char) := do
  let (whole, afterWhole) ← wholePart? (negated text).2
  let (fraction, afterFraction) ← fraction? afterWhole
  let (power, rest) ← exponent? afterFraction
  (numberOfParts? (negated text).1 whole fraction power).map fun number => (number, rest)

theorem number?_shorter {text rest : List Char} {number : Number}
    (read : number? text = some (number, rest)) : rest.length < text.length := by
  simp only [number?, Option.bind_eq_bind, Option.bind_eq_some_iff, Option.map_eq_some_iff,
    Prod.mk.injEq] at read
  obtain ⟨⟨whole, afterWhole⟩, first, ⟨fraction, afterFraction⟩, second, ⟨power, final⟩, third,
    _, _, _, rfl⟩ := read
  have wholeShorter := wholePart?_shorter first
  have fractionBound := fraction?_not_longer second
  have powerBound := exponent?_not_longer third
  have signBound := negated_not_longer text
  simp only at fractionBound powerBound ⊢
  omega

def Token.next? : List Char → Option (Token × List Char)
  | '[' :: rest => some (.openList, rest)
  | ']' :: rest => some (.closeList, rest)
  | '\x7b' :: rest => some (.openMap, rest)
  | '\x7d' :: rest => some (.closeMap, rest)
  | ',' :: rest => some (.comma, rest)
  | ':' :: rest => some (.colon, rest)
  | 'n' :: 'u' :: 'l' :: 'l' :: rest => some (.null, rest)
  | 't' :: 'r' :: 'u' :: 'e' :: rest => some (.bool true, rest)
  | 'f' :: 'a' :: 'l' :: 's' :: 'e' :: rest => some (.bool false, rest)
  | '"' :: rest => (stringBody? rest []).map fun (value, rest) => (.string value, rest)
  | text => (number? text).map fun (value, rest) => (.number value, rest)

theorem Token.next?_shorter {text rest : List Char} {token : Token}
    (read : Token.next? text = some (token, rest)) : rest.length < text.length := by
  unfold Token.next? at read
  split at read
  case h_10 =>
    obtain ⟨⟨value, after⟩, body, read⟩ := Option.map_eq_some_iff.mp read
    simp only [Prod.mk.injEq] at read
    obtain ⟨_, rfl⟩ := read
    have shorter := stringBody?_shorter body
    simp only [List.length_cons]
    omega
  case h_11 =>
    obtain ⟨⟨value, after⟩, found, read⟩ := Option.map_eq_some_iff.mp read
    simp only [Prod.mk.injEq] at read
    obtain ⟨_, rfl⟩ := read
    exact number?_shorter found
  all_goals
    simp only [Option.some.injEq, Prod.mk.injEq] at read
    obtain ⟨_, rfl⟩ := read
    simp only [List.length_cons]
    omega

def Token.scan? (text : List Char) : Option (List Token) :=
  match text with
  | [] => some []
  | first :: tail =>
      if isBlank first then Token.scan? tail
      else
        match _ : Token.next? (first :: tail) with
        | some (token, rest) => (Token.scan? rest).map (token :: ·)
        | none => none
termination_by text.length
decreasing_by
  · simp
  · exact Token.next?_shorter (by assumption)

end Reshape.Json
