import MacroShell.Calendar.Date
import MacroShell.Number.Integer

/-!
# Moments

A moment is a date and a time of day. Times are written in the order of their size, with the year
as it is and every other field in two digits.
-/

namespace MacroShell

structure Clock where
  hour : Nat
  minute : Nat
  second : Nat
  microsecond : Nat
  hour_lt : hour < 24
  minute_lt : minute < 60
  second_lt : second < 60
  microsecond_lt : microsecond < 1000000
  deriving DecidableEq

namespace Clock

def of? (hour minute second microsecond : Nat) : Option Clock :=
  if h : hour < 24 ∧ minute < 60 ∧ second < 60 ∧ microsecond < 1000000 then
    some ⟨hour, minute, second, microsecond, h.1, h.2.1, h.2.2.1, h.2.2.2⟩
  else none

def midnight : Clock := ⟨0, 0, 0, 0, by decide, by decide, by decide, by decide⟩

def seconds (c : Clock) : Nat := 3600 * c.hour + 60 * c.minute + c.second

/-- The time of day a number of seconds after the start of the day, with the microsecond given;
whole days are dropped. -/
def ofSeconds (n : Nat) (microsecond : Nat) (h : microsecond < 1000000) : Clock :=
  ⟨n % 86400 / 3600, n / 60 % 60, n % 60, microsecond, by omega, by omega, by omega, h⟩

end Clock

structure Moment where
  date : Date
  clock : Clock
  deriving DecidableEq

def twoDigits (n : Nat) : Text :=
  if n < 10 then '0' :: naturalText n else naturalText n

namespace Moment

/-- The whole seconds since the start of year 1. -/
def seconds (m : Moment) : Nat := (m.date.ordinal - 1) * 86400 + m.clock.seconds

/-- The moment a number of seconds later, if the calendar reaches it. -/
def add? (m : Moment) (offset : Int) : Option Moment :=
  let total := (m.seconds : Int) + offset
  if total < 0 then none
  else (Date.ofOrdinal? (total.toNat / 86400 + 1)).map fun date =>
    ⟨date, .ofSeconds total.toNat m.clock.microsecond m.clock.microsecond_lt⟩

/-- The moment as `year/month/day hour:minute:second`. -/
def text (m : Moment) : Text :=
  naturalText m.date.year ++ '/' :: twoDigits m.date.month ++ '/' :: twoDigits m.date.day ++
    ' ' :: twoDigits m.clock.hour ++ ':' :: twoDigits m.clock.minute ++
    ':' :: twoDigits m.clock.second

def epoch : Moment := ⟨⟨1970, 1, 1, by decide, by decide, by decide⟩, .midnight⟩

def startOfDay (m : Moment) : Moment := ⟨m.date, .midnight⟩

end Moment
end MacroShell
