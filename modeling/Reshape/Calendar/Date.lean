/-!
Dates of the Gregorian calendar, extended to all years. A date is a year and a day of
the year; day numbers count the days from 1 January of year 1, which was a Monday.
-/

namespace Reshape.Calendar

/-- Days of the week, counted from Monday. Their difference is the number of days from
one to the next occurrence of the other. -/
abbrev Weekday := Fin 7

def Weekday.afterMonday (days : Nat) : Weekday := ⟨days % 7, Nat.mod_lt days (by decide)⟩

def monday : Weekday := 0

def sunday : Weekday := 6

structure Date where
  year : Int
  ordinal : Nat
deriving DecidableEq

def isLeapYear (year : Int) : Bool := year % 4 == 0 && (year % 100 != 0 || year % 400 == 0)

def daysInYear (year : Int) : Nat := if isLeapYear year then 366 else 365

def isSupportedYear (year : Int) : Bool := -262143 ≤ year && year ≤ 262142

def monthLengths (leap : Bool) : List Nat :=
  [31, if leap then 29 else 28, 31, 30, 31, 30, 31, 31, 30, 31, 30, 31]

def yearStart (year : Int) : Int :=
  let before := year - 1
  365 * before + before / 4 - before / 100 + before / 400

namespace Date

def dayNumber (date : Date) : Int := yearStart date.year + date.ordinal - 1

/-- Takes whole cycles of 400, 100, 4 and 1 years off the day number. The last day of a
leap year ending a cycle would begin a cycle too many, which `min` prevents. -/
def ofDayNumber (number : Int) : Date :=
  let cycles := number / 146097
  let inCycle := number % 146097
  let centuries := min (inCycle / 36524) 3
  let inCentury := inCycle - centuries * 36524
  let quads := inCentury / 1461
  let inQuad := inCentury % 1461
  let years := min (inQuad / 365) 3
  { year := 400 * cycles + 100 * centuries + 4 * quads + years + 1
    ordinal := (inQuad - years * 365).toNat + 1 }

def ofOrdinal? (year : Int) (ordinal : Nat) : Option Date :=
  if isSupportedYear year && 1 ≤ ordinal && ordinal ≤ daysInYear year then
    some { year, ordinal }
  else none

def ofYearMonthDay? (year : Int) (month day : Nat) : Option Date := do
  let lengths := monthLengths (isLeapYear year)
  let length ← if month = 0 then none else lengths[month - 1]?
  let before := (lengths.take (month - 1)).foldl (· + ·) 0
  if 1 ≤ day && day ≤ length then ofOrdinal? year (before + day) else none

def findMonth : (lengths : List Nat) → (month day : Nat) → Nat × Nat
  | [], month, day => (month, day)
  | length :: rest, month, day =>
      if day ≤ length then (month, day) else findMonth rest (month + 1) (day - length)

def monthAndDay (date : Date) : Nat × Nat :=
  findMonth (monthLengths (isLeapYear date.year)) 1 date.ordinal

def month (date : Date) : Nat := date.monthAndDay.1

def day (date : Date) : Nat := date.monthAndDay.2

def quarter (date : Date) : Nat := (date.month + 2) / 3

def weekday (date : Date) : Weekday :=
  .afterMonday (date.dayNumber % 7).toNat

def weekFrom (date : Date) (start : Weekday) : Nat :=
  (date.ordinal + 6 - (date.weekday - start).val) / 7

end Date

def isoWeeksInYear (year : Int) : Nat :=
  let first := ({ year, ordinal := 1 } : Date).weekday
  if first = 3 || (first = 2 && isLeapYear year) then 53 else 52

namespace Date

/-- The ISO year and week: weeks begin on Monday and belong to the year of their Thursday. -/
def isoWeek (date : Date) : Int × Nat :=
  let week := (date.ordinal + 9 - date.weekday.val) / 7
  if week = 0 then (date.year - 1, isoWeeksInYear (date.year - 1))
  else if week > isoWeeksInYear date.year then (date.year + 1, 1)
  else (date.year, week)

def ofIsoWeek? (year : Int) (week : Nat) (weekday : Weekday) : Option Date :=
  if isSupportedYear year && 1 ≤ week && week ≤ isoWeeksInYear year then
    let fourth : Date := { year, ordinal := 4 }
    let firstMonday := fourth.dayNumber - fourth.weekday.val
    let date := ofDayNumber (firstMonday + 7 * (week - 1 : Nat) + weekday.val)
    if isSupportedYear date.year then some date else none
  else none

end Date

end Reshape.Calendar
