import Reshape.Calendar.Date

namespace Reshape.Calendar

structure Moment where
  date : Date
  secondOfDay : Nat
  nanosecond : Nat
deriving DecidableEq

namespace Moment

def midnight (date : Date) : Moment := { date, secondOfDay := 0, nanosecond := 0 }

def hour (moment : Moment) : Nat := moment.secondOfDay / 3600

def hour12 (moment : Moment) : Nat :=
  if moment.hour % 12 = 0 then 12 else moment.hour % 12

def isAfternoon (moment : Moment) : Bool := moment.hour ≥ 12

def minute (moment : Moment) : Nat := moment.secondOfDay / 60 % 60

def second (moment : Moment) : Nat := moment.secondOfDay % 60

/-- The second as it is written, which is 60 for a leap second. -/
def shownSecond (moment : Moment) : Nat := moment.second + moment.nanosecond / 1000000000

def fraction (moment : Moment) : Nat := moment.nanosecond % 1000000000

def epochDay : Int := 719162

def timestamp (moment : Moment) : Int :=
  (moment.date.dayNumber - epochDay) * 86400 + moment.secondOfDay

def ofSeconds (seconds : Int) (nanosecond : Nat) : Moment :=
  { date := Date.ofDayNumber (seconds / 86400 + epochDay)
    secondOfDay := (seconds % 86400).toNat
    nanosecond }

def ofTimestamp? (seconds : Int) : Option Moment :=
  let moment := ofSeconds seconds 0
  if isSupportedYear moment.date.year then some moment else none

/-- The moment some seconds earlier; a fraction or leap second is kept. -/
def minusSeconds (moment : Moment) (seconds : Int) : Moment :=
  ofSeconds (moment.timestamp - seconds) moment.nanosecond

end Moment

end Reshape.Calendar
