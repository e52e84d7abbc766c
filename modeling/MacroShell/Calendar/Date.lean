/-!
# Dates

Dates of the Gregorian calendar from year 1 to year 9999, and their numbering: day 1 is the first
day of year 1.
-/

namespace MacroShell

/-- Whether February has 29 days. -/
def isLeapYear (year : Nat) : Bool := year % 4 == 0 && (year % 100 != 0 || year % 400 == 0)

def daysInMonth (year month : Nat) : Nat :=
  if month = 2 then if isLeapYear year then 29 else 28
  else if month = 4 || month = 6 || month = 9 || month = 11 then 30
  else 31

def daysInYear (year : Nat) : Nat := if isLeapYear year then 366 else 365

def lastYear : Nat := 9999

structure Date where
  year : Nat
  month : Nat
  day : Nat
  year_range : 1 ≤ year ∧ year ≤ lastYear
  month_range : 1 ≤ month ∧ month ≤ 12
  day_range : 1 ≤ day ∧ day ≤ daysInMonth year month
  deriving DecidableEq

namespace Date

def of? (year month day : Nat) : Option Date :=
  if hy : 1 ≤ year ∧ year ≤ lastYear then
    if hm : 1 ≤ month ∧ month ≤ 12 then
      if hd : 1 ≤ day ∧ day ≤ daysInMonth year month then some ⟨year, month, day, hy, hm, hd⟩
      else none
    else none
  else none

def daysBeforeYear (year : Nat) : Nat :=
  let past := year - 1
  past * 365 + past / 4 - past / 100 + past / 400

def daysBeforeMonth (year : Nat) : Nat → Nat
  | 0 => 0
  | 1 => 0
  | month + 2 => daysBeforeMonth year (month + 1) + daysInMonth year (month + 1)

/-- The number of the day, counted from 1 for the first day of year 1. -/
def ordinal (d : Date) : Nat := daysBeforeYear d.year + daysBeforeMonth d.year d.month + d.day

/-- Steps through at most `fuel` years from the given one while the days left fill a year. -/
def findYear : Nat → Nat → Nat → Nat × Nat
  | 0, year, left => (year, left)
  | fuel + 1, year, left =>
    if left < daysInYear year then (year, left)
    else findYear fuel (year + 1) (left - daysInYear year)

/-- Steps through at most `fuel` months from the given one while the days left fill a month. -/
def findMonth (year : Nat) : Nat → Nat → Nat → Nat × Nat
  | 0, month, left => (month, left)
  | fuel + 1, month, left =>
    if left < daysInMonth year month then (month, left)
    else findMonth year fuel (month + 1) (left - daysInMonth year month)

/-- The number of days in 400 years, after which the calendar repeats. -/
def daysPerCycle : Nat := 146097

/-- The date of a numbered day, if the calendar reaches it. -/
def ofOrdinal? : Nat → Option Date
  | 0 => none
  | past + 1 =>
    let (year, left) := findYear 400 (400 * (past / daysPerCycle) + 1) (past % daysPerCycle)
    let (month, left) := findMonth year 12 1 left
    of? year month (left + 1)

/-- The day of the week: 0 is Monday and 6 is Sunday. -/
def weekday (d : Date) : Nat := (d.ordinal + 6) % 7

end Date
end MacroShell
