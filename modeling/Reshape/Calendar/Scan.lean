import Reshape.Calendar.Fields
import Reshape.Calendar.Format
/-!
Reading dates and moments from text. Numbers may have white space in front and fewer
digits than they are written with; white space in a format matches any amount, none
included; names are read in any case. Each scanner gives what it has read and the text after it.
-/

namespace Reshape.Calendar

def scanNumber (most : Nat) (text : List Char) : Except ScanError (Int × List Char) :=
  let digits := (text.take most).takeWhile Char.isDigit
  if text.isEmpty then .error .tooShort
  else if digits.isEmpty then .error .invalid
  else
    let value := Nat.ofDigitChars 10 digits 0
    if value ≤ 9223372036854775807 then .ok (value, text.drop digits.length) else .error .outOfRange

def scanExactly (count : Nat) (text : List Char) : Except ScanError (Int × List Char) :=
  if Text.byteSize text < count then .error .tooShort
  else
    let digits := text.take count
    if digits.all Char.isDigit then .ok (Nat.ofDigitChars 10 digits 0, text.drop count)
    else .error .invalid

def NumericField.width? : NumericField → Option Nat
  | .year | .isoYear => some 4
  | .quarter | .weekdayFromSunday | .weekdayFromMonday => some 1
  | .ordinal => some 3
  | .nanosecond => some 9
  | .timestamp => none
  | _ => some 2

/-- Years may have a sign, and then any number of digits. -/
def scanField (field : NumericField) (text : List Char) : Except ScanError (Int × List Char) :=
  let text := Text.trimStart text
  let signed := field == .year || field == .isoYear
  let width := field.width?.getD text.length
  match text with
  | '-' :: rest =>
      if signed then (scanNumber rest.length rest).map fun (value, rest) => (-value, rest)
      else scanNumber width text
  | '+' :: rest => if signed then scanNumber rest.length rest else scanNumber width text
  | _ => scanNumber width text

def scanLiteral (expected text : List Char) : Except ScanError (List Char) :=
  if Text.byteSize text < Text.byteSize expected then .error .tooShort
  else if expected.isPrefixOf text then .ok (text.drop expected.length)
  else .error .invalid

/-- The fraction of a second in nanoseconds. Digits after the ninth are skipped. -/
def scanFraction (text : List Char) : Except ScanError (Int × List Char) := do
  let (value, rest) ← scanNumber 9 text
  let count := text.length - rest.length
  return (value * Nat.pow 10 (9 - count), rest.dropWhile Char.isDigit)

def sameLetters (left right : List Char) : Bool :=
  left.map Char.toLower == right.map Char.toLower

def scanShortName (names : List String) (text : List Char) : Except ScanError (Nat × List Char) :=
  if Text.byteSize text < 3 then .error .tooShort
  else
    match names.findIdx? fun name => sameLetters (name.toList.take 3) (text.take 3) with
    | some position => .ok (position, text.drop 3)
    | none => .error .invalid

def scanLongName (names : List String) (text : List Char) : Except ScanError (Nat × List Char) := do
  let (position, rest) ← scanShortName names text
  let tail := (names.getD position "").toList.drop 3
  if sameLetters tail (rest.take tail.length) then return (position, rest.drop tail.length)
  else return (position, rest)

def scanHalf (text : List Char) : Except ScanError (Bool × List Char) :=
  if Text.byteSize text < 2 then .error .tooShort
  else if sameLetters (text.take 2) ['a', 'm'] then .ok (false, text.drop 2)
  else if sameLetters (text.take 2) ['p', 'm'] then .ok (true, text.drop 2)
  else .error .invalid

structure OffsetForm where
  /-- Skips what may stand between hours and minutes. -/
  separator : List Char → Except ScanError (List Char)
  zulu : Bool
  minutesOptional : Bool

def looseSeparator (text : List Char) : Except ScanError (List Char) :=
  .ok (text.dropWhile fun character => character == ':' || Text.isBlank character)

def colonSeparator (text : List Char) : Except ScanError (List Char) := scanLiteral [':'] text

def scanSign : List Char → Except ScanError (Bool × List Char)
  | '+' :: rest => .ok (false, rest)
  | '-' :: rest => .ok (true, rest)
  | '\u2212' :: rest => .ok (true, rest)
  | [] => .error .tooShort
  | _ => .error .invalid

def scanOffsetMinutes (form : OffsetForm) (text : List Char) : Except ScanError (Int × List Char) :=
  if Text.byteSize text ≥ 2 then
    match text with
    | tens :: ones :: rest =>
        if tens.isDigit && ones.isDigit then
          let minutes := Nat.ofDigitChars 10 [tens, ones] 0
          if minutes < 60 then .ok (minutes, rest) else .error .outOfRange
        else .error .invalid
    | _ => .error .invalid
  else if form.minutesOptional && text.isEmpty then .ok (0, [])
  else .error .tooShort

def scanOffset (form : OffsetForm) (text : List Char) : Except ScanError (Int × List Char) := do
  if form.zulu && sameLetters (text.take 1) ['z'] then return (0, text.drop 1)
  let (west, rest) ← scanSign text
  let (hours, rest) ← scanExactly 2 rest
  let (minutes, rest) ← scanOffsetMinutes form (← form.separator rest)
  let seconds := hours * 3600 + minutes * 60
  return (if west then -seconds else seconds, rest)

def scanNumericField (field : NumericField) (fields : Fields) (text : List Char) :
    Except ScanError (Fields × List Char) := do
  let (value, rest) ← scanField field text
  return (← fields.set field value, rest)

def scanExactFraction (count : Nat) (text : List Char) : Except ScanError (Int × List Char) := do
  let (value, rest) ← scanExactly count text
  return (value * Nat.pow 10 (9 - count), rest)

def scanPointFraction (count : Option Nat) (fields : Fields) (text : List Char) :
    Except ScanError (Fields × List Char) :=
  match text with
  | '.' :: digits => do
      let (nanosecond, rest) ← match count with
        | some count => scanExactFraction count digits
        | none => scanFraction digits
      return (← fields.set .nanosecond nanosecond, rest)
  | text => .ok (fields, text)

/-- A date, a `T` or space, a time and an offset, with white space allowed around the
separators; `UTC` may stand for the offset. -/
def scanLooseStandard (fields : Fields) (text : List Char) :
    Except ScanError (Fields × List Char) := do
  let (fields, text) ← scanNumericField .year fields text
  let text ← scanLiteral ['-'] (Text.trimStart text)
  let (fields, text) ← scanNumericField .month fields text
  let text ← scanLiteral ['-'] (Text.trimStart text)
  let (fields, text) ← scanNumericField .day fields text
  let text ← match text with
    | [] => .error .tooShort
    | mark :: rest =>
        if mark == 't' || mark == 'T' || mark == ' ' then .ok rest else .error .invalid
  let (fields, text) ← scanNumericField .hour fields text
  let text ← scanLiteral [':'] (Text.trimStart text)
  let (fields, text) ← scanNumericField .minute fields text
  let text ← scanLiteral [':'] (Text.trimStart text)
  let (fields, text) ← scanNumericField .second fields text
  let (fields, text) ← scanPointFraction none fields text
  let text := Text.trimStart text
  if sameLetters (text.take 3) ['u', 't', 'c'] then return (← fields.setOffset 0, text.drop 3)
  let form := { separator := looseSeparator, zulu := true, minutesOptional := false }
  let (offset, rest) ← scanOffset form text
  return (← fields.setOffset offset, rest)

def scanTextField (field : TextField) (fields : Fields) (text : List Char) :
    Except ScanError (Fields × List Char) := do
  match field with
  | .shortMonth =>
      let (position, rest) ← scanShortName monthNames text
      return (← fields.setMonth (position + 1), rest)
  | .longMonth =>
      let (position, rest) ← scanLongName monthNames text
      return (← fields.setMonth (position + 1), rest)
  | .shortWeekday =>
      let (position, rest) ← scanShortName weekdayNames text
      return (← fields.setWeekday (.afterMonday position), rest)
  | .longWeekday =>
      let (position, rest) ← scanLongName weekdayNames text
      return (← fields.setWeekday (.afterMonday position), rest)
  | .lowerHalf | .upperHalf =>
      let (afternoon, rest) ← scanHalf text
      return (← fields.setAfternoon afternoon, rest)
  | .fraction count => scanPointFraction count fields text
  | .bareFraction count =>
      let (nanosecond, rest) ← scanExactFraction count text
      return (← fields.set .nanosecond nanosecond, rest)
  | .zoneName => return (fields, text.dropWhile fun character => !Text.isBlank character)
  | .zoneOffset =>
      let form := { separator := looseSeparator, zulu := false, minutesOptional := false }
      let (offset, rest) ← scanOffset form (Text.trimStart text)
      return (← fields.setOffset offset, rest)
  | .permissiveZoneOffset =>
      let form := { separator := looseSeparator, zulu := true, minutesOptional := true }
      let (offset, rest) ← scanOffset form (Text.trimStart text)
      return (← fields.setOffset offset, rest)
  | .standard => scanLooseStandard fields text

def scanItem (item : Item) (fields : Fields) (text : List Char) :
    Except ScanError (Fields × List Char) :=
  match item with
  | .literal expected => (scanLiteral expected text).map fun rest => (fields, rest)
  | .blank _ => .ok (fields, Text.trimStart text)
  | .number field _ => scanNumericField field fields text
  | .text field => scanTextField field fields text
  | .invalid => .error .badFormat

def scanItems (fields : Fields) (text : List Char) :
    List Item → Except ScanError (Fields × List Char)
  | [] => .ok (fields, text)
  | item :: rest => do
      let (fields, text) ← scanItem item fields text
      scanItems fields text rest

def scanFields (format text : String) : Except ScanError Fields := do
  let (fields, rest) ← scanItems {} text.toList (Item.ofFormat format.toList)
  if rest.isEmpty then return fields else .error .tooLong

def Moment.scan (format text : String) : Except ScanError Moment := do
  (← scanFields format text).toMoment 0

def Date.scan (format text : String) : Except ScanError Date := do
  (← scanFields format text).toDate

def scanStandard (text : List Char) : Except ScanError Moment := do
  let (year, text) ← scanExactly 4 text
  let (month, text) ← scanExactly 2 (← scanLiteral ['-'] text)
  let (day, text) ← scanExactly 2 (← scanLiteral ['-'] text)
  let text ← match text with
    | [] => .error .tooShort
    | mark :: rest =>
        if mark == 't' || mark == 'T' || mark == ' ' then .ok rest else .error .invalid
  let (hour, text) ← scanExactly 2 text
  let (minute, text) ← scanExactly 2 (← scanLiteral [':'] text)
  let (second, text) ← scanExactly 2 (← scanLiteral [':'] text)
  let (fields, text) ← scanPointFraction none {} text
  let form := { separator := colonSeparator, zulu := true, minutesOptional := false }
  let (offset, rest) ← scanOffset form text
  if offset.natAbs ≥ 24 * 3600 then .error .outOfRange
  if !rest.isEmpty then .error .tooLong
  let fields ← fields.set .year year
  let fields ← fields.set .month month
  let fields ← fields.set .day day
  let fields ← fields.set .hour hour
  let fields ← fields.set .minute minute
  let fields ← fields.set .second second
  return (← fields.toMoment offset).minusSeconds offset

def Moment.ofStandard? (text : String) : Option Moment := (scanStandard text.toList).toOption

end Reshape.Calendar
