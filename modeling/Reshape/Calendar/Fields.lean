import Reshape.Calendar.Directive
import Reshape.Calendar.Moment
/-!
Fields read from a text, and the date or moment that they determine. A field that is read
twice must be read alike. Of the ways to determine a date the first that has its fields
is taken, and all other fields must agree with it.
-/

namespace Reshape.Calendar

inductive ScanError where
  | outOfRange
  | impossible
  | notEnough
  | invalid
  | tooShort
  | tooLong
  | badFormat
deriving DecidableEq

def ScanError.message : ScanError → String
  | .outOfRange => "input is out of range"
  | .impossible => "no possible date and time matching input"
  | .notEnough => "input is not enough for unique date and time"
  | .invalid => "input contains invalid characters"
  | .tooShort => "premature end of input"
  | .tooLong => "trailing input"
  | .badFormat => "bad or unsupported format string"

structure Fields where
  year : Option Int := none
  century : Option Int := none
  yearOfCentury : Option Int := none
  isoYear : Option Int := none
  isoYearOfCentury : Option Int := none
  quarter : Option Nat := none
  month : Option Nat := none
  day : Option Nat := none
  weekFromSunday : Option Nat := none
  weekFromMonday : Option Nat := none
  isoWeek : Option Nat := none
  weekday : Option Weekday := none
  ordinal : Option Nat := none
  afternoon : Option Bool := none
  hourOfHalf : Option Nat := none
  minute : Option Nat := none
  second : Option Nat := none
  nanosecond : Option Nat := none
  timestamp : Option Int := none
  offset : Option Int := none

def agree {α : Type} [DecidableEq α] (old : Option α) (new : α) : Except ScanError (Option α) :=
  match old with
  | some previous => if previous = new then .ok (some new) else .error .impossible
  | none => .ok (some new)

def within (low high : Nat) (value : Int) : Except ScanError Nat :=
  if (low : Int) ≤ value && value ≤ high then .ok value.toNat else .error .outOfRange

def word (value : Int) : Except ScanError Int :=
  if -2147483648 ≤ value && value ≤ 2147483647 then .ok value else .error .outOfRange

namespace Fields

def setWeekday (fields : Fields) (weekday : Weekday) : Except ScanError Fields := do
  return { fields with weekday := ← agree fields.weekday weekday }

def setAfternoon (fields : Fields) (afternoon : Bool) : Except ScanError Fields := do
  return { fields with afternoon := ← agree fields.afternoon afternoon }

def setMonth (fields : Fields) (month : Int) : Except ScanError Fields := do
  return { fields with month := ← agree fields.month (← within 1 12 month) }

def setOffset (fields : Fields) (seconds : Int) : Except ScanError Fields := do
  return { fields with offset := ← agree fields.offset seconds }

def set (fields : Fields) (field : NumericField) (value : Int) : Except ScanError Fields := do
  match field with
  | .year => return { fields with year := ← agree fields.year (← word value) }
  | .century => return { fields with century := ← agree fields.century (← word value) }
  | .yearOfCentury =>
      let part : Int ← within 0 99 value
      return { fields with yearOfCentury := ← agree fields.yearOfCentury part }
  | .isoYear => return { fields with isoYear := ← agree fields.isoYear (← word value) }
  | .isoYearOfCentury =>
      let part : Int ← within 0 99 value
      return { fields with isoYearOfCentury := ← agree fields.isoYearOfCentury part }
  | .quarter => return { fields with quarter := ← agree fields.quarter (← within 1 4 value) }
  | .month => fields.setMonth value
  | .day => return { fields with day := ← agree fields.day (← within 1 31 value) }
  | .weekFromSunday =>
      return { fields with weekFromSunday := ← agree fields.weekFromSunday (← within 0 53 value) }
  | .weekFromMonday =>
      return { fields with weekFromMonday := ← agree fields.weekFromMonday (← within 0 53 value) }
  | .isoWeek => return { fields with isoWeek := ← agree fields.isoWeek (← within 1 53 value) }
  | .weekdayFromSunday =>
      let days ← within 0 6 value
      fields.setWeekday (.afterMonday (days + 6))
  | .weekdayFromMonday =>
      let days ← within 1 7 value
      fields.setWeekday (.afterMonday (days + 6))
  | .ordinal => return { fields with ordinal := ← agree fields.ordinal (← within 1 366 value) }
  | .hour =>
      let hour ← within 0 23 value
      let afternoon ← agree fields.afternoon (12 ≤ hour)
      return { fields with afternoon, hourOfHalf := ← agree fields.hourOfHalf (hour % 12) }
  | .hour12 =>
      return { fields with hourOfHalf := ← agree fields.hourOfHalf ((← within 1 12 value) % 12) }
  | .minute => return { fields with minute := ← agree fields.minute (← within 0 59 value) }
  | .second => return { fields with second := ← agree fields.second (← within 0 60 value) }
  | .nanosecond =>
      return { fields with nanosecond := ← agree fields.nanosecond (← within 0 999999999 value) }
  | .timestamp => return { fields with timestamp := ← agree fields.timestamp value }

/-- The full year, from itself or from its century and the year of the century. A year of
the century alone lies between 1970 and 2069. -/
def resolveYear (full century part : Option Int) : Except ScanError (Option Int) :=
  match full, century, part with
  | full, none, none => .ok full
  | some year, century, part =>
      if year ≥ 0 && century.getD (year / 100) == year / 100 &&
          part.getD (year % 100) == year % 100 then
        .ok (some year)
      else .error .impossible
  | none, some century, some part => (word (century * 100 + part)).map some
  | none, none, some part => .ok (some (part + if part < 70 then 2000 else 1900))
  | none, some _, none => .error .notEnough

def agreesWithPart (read : Option Int) (year part : Int) : Bool :=
  match read with
  | some value => year ≥ 0 && value == part
  | none => true

def agreesOnDay (fields : Fields) (date : Date) : Bool :=
  fields.year.getD date.year == date.year &&
    agreesWithPart fields.century date.year (date.year / 100) &&
    agreesWithPart fields.yearOfCentury date.year (date.year % 100) &&
    fields.month.getD date.month == date.month && fields.day.getD date.day == date.day

def agreesOnIsoWeek (fields : Fields) (date : Date) : Bool :=
  let (isoYear, isoWeek) := date.isoWeek
  fields.isoYear.getD isoYear == isoYear &&
    agreesWithPart fields.isoYearOfCentury isoYear (isoYear % 100) &&
    fields.isoWeek.getD isoWeek == isoWeek && fields.weekday.getD date.weekday == date.weekday

def agreesOnOrdinal (fields : Fields) (date : Date) : Bool :=
  fields.ordinal.getD date.ordinal == date.ordinal &&
    fields.weekFromSunday.getD (date.weekFrom sunday) == date.weekFrom sunday &&
    fields.weekFromMonday.getD (date.weekFrom monday) == date.weekFrom monday

def dateOfWeek (year : Int) (week : Nat) (weekday start : Weekday) : Except ScanError Date :=
  match Date.ofOrdinal? year 1 with
  | none => .error .outOfRange
  | some first =>
      let firstStart : Int := 1 + (start - first.weekday).val
      let ordinal := firstStart + ((week : Int) - 1) * 7 + (weekday - start).val
      if ordinal ≤ 0 then .error .impossible
      else
        match Date.ofOrdinal? year ordinal.toNat with
        | some date => .ok date
        | none => .error .impossible

def orOutOfRange (date : Option Date) : Except ScanError Date :=
  match date with
  | some date => .ok date
  | none => .error .outOfRange

def confirm (fields : Fields) (agrees : Bool) (date : Date) : Except ScanError Date :=
  if agrees && fields.quarter.getD date.quarter == date.quarter then .ok date
  else .error .impossible

def toDate (fields : Fields) : Except ScanError Date := do
  let year ← resolveYear fields.year fields.century fields.yearOfCentury
  let isoYear ← resolveYear fields.isoYear none fields.isoYearOfCentury
  match year, isoYear, fields with
  | some year, _, { month := some month, day := some day, .. } =>
      let date ← orOutOfRange (Date.ofYearMonthDay? year month day)
      fields.confirm (fields.agreesOnIsoWeek date && fields.agreesOnOrdinal date) date
  | some year, _, { ordinal := some ordinal, .. } =>
      let date ← orOutOfRange (Date.ofOrdinal? year ordinal)
      fields.confirm
        (fields.agreesOnDay date && fields.agreesOnIsoWeek date && fields.agreesOnOrdinal date) date
  | some year, _, { weekFromSunday := some week, weekday := some weekday, .. } =>
      let date ← dateOfWeek year week weekday sunday
      fields.confirm
        (fields.agreesOnDay date && fields.agreesOnIsoWeek date && fields.agreesOnOrdinal date) date
  | some year, _, { weekFromMonday := some week, weekday := some weekday, .. } =>
      let date ← dateOfWeek year week weekday monday
      fields.confirm
        (fields.agreesOnDay date && fields.agreesOnIsoWeek date && fields.agreesOnOrdinal date) date
  | _, some isoYear, { isoWeek := some week, weekday := some weekday, .. } =>
      let date ← orOutOfRange (Date.ofIsoWeek? isoYear week weekday)
      fields.confirm (fields.agreesOnDay date && fields.agreesOnOrdinal date) date
  | _, _, _ => .error .notEnough

/-- The second of the day and the nanosecond. Second 60 is the leap second after 59. -/
def toTime (fields : Fields) : Except ScanError (Nat × Nat) :=
  match fields.afternoon, fields.hourOfHalf, fields.minute with
  | some afternoon, some hour, some minute =>
      let second := fields.second.getD 0
      let (second, leap) := if second = 60 then (59, 1000000000) else (second, 0)
      let secondOfDay := ((if afternoon then 12 else 0) + hour) * 3600 + minute * 60 + second
      match fields.nanosecond, fields.second with
      | some _, none => .error .notEnough
      | nanosecond, _ => .ok (secondOfDay, leap + nanosecond.getD 0)
  | _, _, _ => .error .notEnough

def fillFrom (fields : Fields) (moment : Moment) : Except ScanError Fields := do
  let fields ← fields.set .year moment.date.year
  let fields ← fields.set .ordinal moment.date.ordinal
  let fields ← fields.set .hour moment.hour
  fields.set .minute moment.minute

/-- The moment of a timestamp that other fields were read beside. -/
def ofTimestamp (fields : Fields) (seconds : Int) : Except ScanError Moment := do
  let moment ← match Moment.ofTimestamp? seconds with
    | some moment => pure moment
    | none => .error .outOfRange
  let filled ←
    if fields.second = some 60 then
      if moment.second = 59 then fields.fillFrom moment
      else if moment.second = 0 then fields.fillFrom (moment.minusSeconds 1)
      else .error .impossible
    else (← fields.set .second moment.second).fillFrom moment
  let date ← filled.toDate
  let (secondOfDay, nanosecond) ← filled.toTime
  return { date, secondOfDay, nanosecond }

def toMoment (fields : Fields) (offset : Int) : Except ScanError Moment :=
  match fields.toDate, fields.toTime, fields.timestamp with
  | .ok date, .ok (secondOfDay, nanosecond), timestamp =>
      let moment : Moment := { date, secondOfDay, nanosecond }
      let seconds := moment.timestamp - offset
      let given := timestamp.getD seconds
      if given = seconds || (nanosecond ≥ 1000000000 && given = seconds + 1) then .ok moment
      else .error .impossible
  | .error .outOfRange, _, some _ => .error .outOfRange
  | _, .error .outOfRange, some _ => .error .outOfRange
  | .error .impossible, _, some _ => .error .impossible
  | _, .error .impossible, some _ => .error .impossible
  | _, _, some timestamp => fields.ofTimestamp (timestamp + offset)
  | .error error, _, none => .error error
  | _, .error error, none => .error error

end Fields

end Reshape.Calendar
