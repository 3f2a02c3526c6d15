import Reshape.Calendar.Directive
import Reshape.Calendar.Moment

namespace Reshape.Calendar

def monthNames : List String :=
  ["January", "February", "March", "April", "May", "June", "July", "August", "September", "October",
    "November", "December"]

def weekdayNames : List String :=
  ["Monday", "Tuesday", "Wednesday", "Thursday", "Friday", "Saturday", "Sunday"]

def shortName (name : String) : String := String.ofList (name.toList.take 3)

/-- Two digits of a byte. From 100 on the tens are the characters after the digit nine. -/
def twoDigits (padding : Padding) (value : Nat) : List Char :=
  let tens := value % 256 / 10
  let ones := Nat.digitChar (value % 256 % 10)
  match tens, padding with
  | 0, .none => [ones]
  | 0, .spaces => [' ', ones]
  | tens, _ => [Char.ofNat ('0'.toNat + tens), ones]

def padded (width : Nat) (padding : Padding) (plus : Bool) (value : Int) : List Char :=
  let sign := if value < 0 then ['-'] else if plus then ['+'] else []
  let digits := Nat.toDigits 10 value.natAbs
  let missing := width - (sign.length + digits.length)
  match padding with
  | .none => sign ++ digits
  | .zeros => sign ++ List.replicate missing '0' ++ digits
  | .spaces => List.replicate missing ' ' ++ sign ++ digits

/-- A year of four digits; one before 0 or after 9999 also has a sign. -/
def yearText (padding : Padding) (year : Int) : List Char :=
  if 0 ≤ year && year ≤ 9999 then padded 4 padding false year else padded 5 padding true year

def lowByte (value : Int) : Nat := (value % 256).toNat

namespace Moment

def writeNumber (moment : Moment) (field : NumericField) (padding : Padding) : List Char :=
  let date := moment.date
  let one (value : Nat) := [Nat.digitChar value]
  match field with
  | .year => yearText padding date.year
  | .century => twoDigits padding (lowByte (date.year / 100))
  | .yearOfCentury => twoDigits padding (lowByte (date.year % 100))
  | .isoYear => yearText padding date.isoWeek.1
  | .isoYearOfCentury => twoDigits padding (lowByte (date.isoWeek.1 % 100))
  | .quarter => one date.quarter
  | .month => twoDigits padding date.month
  | .day => twoDigits padding date.day
  | .weekFromSunday => twoDigits padding (date.weekFrom sunday)
  | .weekFromMonday => twoDigits padding (date.weekFrom monday)
  | .isoWeek => twoDigits padding date.isoWeek.2
  | .weekdayFromSunday => one (date.weekday - sunday).val
  | .weekdayFromMonday => one (date.weekday.val + 1)
  | .ordinal => padded 3 padding false date.ordinal
  | .hour => twoDigits padding moment.hour
  | .hour12 => twoDigits padding moment.hour12
  | .minute => twoDigits padding moment.minute
  | .second => twoDigits padding moment.shownSecond
  | .nanosecond => padded 9 padding false moment.fraction
  | .timestamp => padded 9 padding false moment.timestamp

def fractionDigits (moment : Moment) (count : Nat) : List Char :=
  padded count .zeros false (moment.fraction / Nat.pow 10 (9 - count) : Nat)

/-- The fewest of 3, 6 or 9 digits that give the fraction exactly. -/
def fractionLength (moment : Moment) : Nat :=
  if moment.fraction % 1000000 = 0 then 3 else if moment.fraction % 1000 = 0 then 6 else 9

def writeText? (moment : Moment) : TextField → Option (List Char)
  | .shortMonth => some (shortName (monthNames.getD (moment.date.month - 1) "")).toList
  | .longMonth => some (monthNames.getD (moment.date.month - 1) "").toList
  | .shortWeekday => some (shortName (weekdayNames.getD moment.date.weekday.val "")).toList
  | .longWeekday => some (weekdayNames.getD moment.date.weekday.val "").toList
  | .lowerHalf => some (if moment.isAfternoon then ['p', 'm'] else ['a', 'm'])
  | .upperHalf => some (if moment.isAfternoon then ['P', 'M'] else ['A', 'M'])
  | .fraction (some count) => some ('.' :: moment.fractionDigits count)
  | .fraction none =>
      some (if moment.fraction = 0 then [] else '.' :: moment.fractionDigits moment.fractionLength)
  | .bareFraction count => some (moment.fractionDigits count)
  | .zoneName | .zoneOffset | .permissiveZoneOffset | .standard => none

def writeItem? (moment : Moment) : Item → Option (List Char)
  | .literal text => some text
  | .blank text => some text
  | .number field padding => some (moment.writeNumber field padding)
  | .text field => moment.writeText? field
  | .invalid => none

def writeItems? (moment : Moment) : List Item → Option (List Char)
  | [] => some []
  | item :: rest => do
      let front ← moment.writeItem? item
      return front ++ (← moment.writeItems? rest)

def format? (moment : Moment) (format : String) : Option String :=
  (moment.writeItems? (Item.ofFormat format.toList)).map String.ofList

end Moment

end Reshape.Calendar
