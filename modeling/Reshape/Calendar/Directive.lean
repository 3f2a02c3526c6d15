import Reshape.Text.Blank
/-!
Date formats. A format is read into items: literal text, white space, numeric fields and
textual fields. A percent sign starts a directive, in which `-`, `0` or `_` may ask for no
padding, zeros or spaces; a directive that does not exist gives the item `invalid`.
-/

namespace Reshape.Calendar

inductive NumericField where
  | year
  | century
  | yearOfCentury
  | isoYear
  | isoYearOfCentury
  | quarter
  | month
  | day
  | weekFromSunday
  | weekFromMonday
  | isoWeek
  | weekdayFromSunday
  | weekdayFromMonday
  | ordinal
  | hour
  | hour12
  | minute
  | second
  | nanosecond
  | timestamp
deriving DecidableEq

inductive TextField where
  | shortMonth
  | longMonth
  | shortWeekday
  | longWeekday
  | lowerHalf
  | upperHalf
  | fraction (digits : Option Nat)
  | bareFraction (digits : Nat)
  | zoneName
  | zoneOffset
  | permissiveZoneOffset
  | standard
deriving DecidableEq

inductive Padding where
  | none
  | zeros
  | spaces
deriving DecidableEq

inductive Item where
  | literal (text : List Char)
  | blank (text : List Char)
  | number (field : NumericField) (padding : Padding)
  | text (field : TextField)
  | invalid
deriving DecidableEq

namespace Item

def zeroPadded (field : NumericField) : Item := .number field .zeros

def colon : Item := .literal [':']

def slash : Item := .literal ['/']

def hyphen : Item := .literal ['-']

def space : Item := .blank [' ']

def slashedDate : List Item :=
  [zeroPadded .month, slash, zeroPadded .day, slash, zeroPadded .yearOfCentury]

def clockTime : List Item :=
  [zeroPadded .hour, colon, zeroPadded .minute, colon, zeroPadded .second]

def ofLetter : Char → List Item
  | 'A' => [.text .longWeekday]
  | 'B' => [.text .longMonth]
  | 'C' => [zeroPadded .century]
  | 'D' => slashedDate
  | 'F' => [zeroPadded .year, hyphen, zeroPadded .month, hyphen, zeroPadded .day]
  | 'G' => [zeroPadded .isoYear]
  | 'H' => [zeroPadded .hour]
  | 'I' => [zeroPadded .hour12]
  | 'M' => [zeroPadded .minute]
  | 'P' => [.text .lowerHalf]
  | 'R' => [zeroPadded .hour, colon, zeroPadded .minute]
  | 'S' => [zeroPadded .second]
  | 'T' => clockTime
  | 'U' => [zeroPadded .weekFromSunday]
  | 'V' => [zeroPadded .isoWeek]
  | 'W' => [zeroPadded .weekFromMonday]
  | 'X' => clockTime
  | 'Y' => [zeroPadded .year]
  | 'Z' => [.text .zoneName]
  | 'a' => [.text .shortWeekday]
  | 'b' => [.text .shortMonth]
  | 'c' => [.text .shortWeekday, space, .text .shortMonth, space, .number .day .spaces, space] ++
      clockTime ++ [space, zeroPadded .year]
  | 'd' => [zeroPadded .day]
  | 'e' => [.number .day .spaces]
  | 'f' => [zeroPadded .nanosecond]
  | 'g' => [zeroPadded .isoYearOfCentury]
  | 'h' => [.text .shortMonth]
  | 'j' => [zeroPadded .ordinal]
  | 'k' => [.number .hour .spaces]
  | 'l' => [.number .hour12 .spaces]
  | 'm' => [zeroPadded .month]
  | 'n' => [.blank ['\n']]
  | 'p' => [.text .upperHalf]
  | 'q' => [.number .quarter .none]
  | 'r' => [zeroPadded .hour12, colon, zeroPadded .minute, colon, zeroPadded .second, space,
      .text .upperHalf]
  | 's' => [.number .timestamp .none]
  | 't' => [.blank ['\t']]
  | 'u' => [.number .weekdayFromMonday .none]
  | 'v' => [.number .day .spaces, hyphen, .text .shortMonth, hyphen, zeroPadded .year]
  | 'w' => [.number .weekdayFromSunday .none]
  | 'x' => slashedDate
  | 'y' => [zeroPadded .yearOfCentury]
  | 'z' => [.text .zoneOffset]
  | '+' => [.text .standard]
  | '%' => [.literal ['%']]
  | _ => [.invalid]

/-- The items of a directive without padding, and how many characters it has. -/
def ofDirective : List Char → List Item × Nat
  | [] => ([.invalid], 0)
  | ':' :: ':' :: ':' :: 'z' :: _ => ([.text .zoneOffset], 4)
  | ':' :: ':' :: 'z' :: _ => ([.text .zoneOffset], 3)
  | ':' :: 'z' :: _ => ([.text .zoneOffset], 2)
  | '.' :: 'f' :: _ => ([.text (.fraction none)], 2)
  | '.' :: digit :: letter :: _ =>
      if letter == 'f' then
        if digit == '3' then ([.text (.fraction (some 3))], 3)
        else if digit == '6' then ([.text (.fraction (some 6))], 3)
        else if digit == '9' then ([.text (.fraction (some 9))], 3)
        else ([.invalid], 3)
      else ([.invalid], 3)
  | '3' :: 'f' :: _ => ([.text (.bareFraction 3)], 2)
  | '6' :: 'f' :: _ => ([.text (.bareFraction 6)], 2)
  | '9' :: 'f' :: _ => ([.text (.bareFraction 9)], 2)
  | letter :: _ => (ofLetter letter, 1)

/-- Padding may be asked of a single numeric field only. -/
def pad (padding : Padding) : List Item → List Item
  | [.number field _] => [.number field padding]
  | _ => [.invalid]

def padding? : Char → Option Padding
  | '-' => some .none
  | '0' => some .zeros
  | '_' => some .spaces
  | _ => none

def afterPercent : List Char → List Item × Nat
  | '#' :: 'z' :: _ => ([.text .permissiveZoneOffset], 2)
  | '#' :: _ => ([.invalid], 1)
  | mark :: rest =>
      match padding? mark with
      | some padding =>
          let (items, length) := ofDirective rest
          (pad padding items, length + 1)
      | none => ofDirective (mark :: rest)
  | [] => ([.invalid], 0)

def isLiteral (character : Char) : Bool := character != '%' && !Text.isBlank character

def ofFormat : List Char → List Item
  | [] => []
  | first :: rest =>
      if first == '%' then
        let (items, length) := afterPercent rest
        items ++ ofFormat (rest.drop length)
      else if Text.isBlank first then
        .blank (first :: rest.takeWhile Text.isBlank) :: ofFormat (rest.dropWhile Text.isBlank)
      else .literal (first :: rest.takeWhile isLiteral) :: ofFormat (rest.dropWhile isLiteral)
termination_by text => text.length
decreasing_by
  · simp only [List.length_drop, List.length_cons]
    omega
  · have shorter := (List.dropWhile_sublist Text.isBlank (l := rest)).length_le
    simp only [List.length_cons]
    omega
  · have shorter := (List.dropWhile_sublist isLiteral (l := rest)).length_le
    simp only [List.length_cons]
    omega

end Item

end Reshape.Calendar
