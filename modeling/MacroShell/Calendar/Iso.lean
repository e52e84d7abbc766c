import MacroShell.Calendar.Moment
import MacroShell.Text.Utf8

/-!
# ISO 8601

Dates and times in the extended and the basic form, by month or by week, with any character
between date and time, fractions of a second, and an offset from universal time. A text is read
octet by octet; each octet is held as the character with its code.
-/

namespace MacroShell

/-- A moment and, where one was given, its offset from universal time in microseconds. -/
structure Timestamp where
  moment : Moment
  offset : Option Int
  deriving DecidableEq

namespace Iso

/-- The octets of a text, each as the character with its code. -/
def octets (t : Text) : Text := (Utf8.encode t).map fun b => Char.ofNat b.toNat

def octetAt (s : Text) (i : Nat) : Char := s.getD i '\x00'

def takeDigits? (count : Nat) (s : Text) : Option (Nat × Text) :=
  if (s.take count).length = count && (s.take count).all Char.isDigit then
    some (digitsValue (s.take count), s.drop count)
  else none

/-- The date of a weekday, counted from 1, in a week of a year. The first week is the one that
holds the first Thursday of the year; a year has a week 53 if it starts on a Thursday, or on a
Wednesday and is a leap year. -/
def weekDate? (year week day : Nat) : Option Date :=
  (Date.of? year 1 1).bind fun first =>
    let long := first.weekday == 3 || (first.weekday == 2 && isLeapYear year)
    if week = 0 || 53 < week || (week = 53 && !long) || day = 0 || 7 < day then none
    else
      let monday := first.ordinal + 7 * week - (if first.weekday ≤ 3 then 7 else 0)
        - first.weekday
      Date.ofOrdinal? (monday + day - 1)

/-- How many octets the date takes up. Seven octets are a date on their own. Otherwise the fifth
and sixth octet tell the form, and where a week may be followed by a weekday or by a time, the
digits after it decide. -/
def dateLength (s : Text) : Nat :=
  if s.length = 7 then 7
  else if octetAt s 4 = '-' then
    if octetAt s 5 = 'W' then
      if octetAt s 8 = '-' && !(10 < s.length && (octetAt s 10).isDigit) then 10 else 8
    else 10
  else if octetAt s 4 = 'W' then
    let digits := 7 + ((s.drop 7).takeWhile Char.isDigit).length
    if digits < 9 then digits else if digits % 2 = 0 then 7 else 8
  else 8

/-- Reads the date in the front octets of a text, of the given number. -/
def readDate? (length : Nat) (s : Text) : Option Date := do
  let (year, rest) ← takeDigits? 4 s
  let dashed := rest.head? == some '-'
  let rest := if dashed then rest.drop 1 else rest
  match rest with
  | 'W' :: rest =>
    let (week, rest) ← takeDigits? 2 rest
    if s.length - rest.length < length then
      let rest ← if dashed then (if rest.head? == some '-' then some (rest.drop 1) else none)
        else some rest
      let (day, _) ← takeDigits? 1 rest
      weekDate? year week day
    else weekDate? year week 1
  | rest =>
    let (month, rest) ← takeDigits? 2 rest
    let rest ← if dashed then (if rest.head? == some '-' then some (rest.drop 1) else none)
      else some rest
    let (day, _) ← takeDigits? 2 rest
    Date.of? year month day

/-- The fields of a time as read, and whether anything was left unread. -/
structure Reading where
  fields : List Nat
  microsecond : Nat
  leftover : Bool

/-- Reads a fraction of a second: up to six digits count and all further ones are passed over.
The character after the text is given. -/
def readFraction? (next : Char) (s : Text) : Option Reading :=
  let count := min 6 s.length
  (takeDigits? count s).map fun (n, rest) =>
    let stop := ((rest.dropWhile Char.isDigit).head?).getD next
    ⟨[], n * tenTo (6 - count), stop != '\x00'⟩

/-- Reads up to so many fields of two digits, and a fraction after a point, a comma or the last
field. Colons between the fields are used throughout or not at all. The character after the text
is given. -/
def readFields? (next : Char) : Nat → Option Bool → Text → Option Reading
  | 0, _, s => readFraction? next s
  | count + 1, colons, s =>
    (takeDigits? 2 s).bind fun (n, rest) =>
      let stop := rest.head?.getD next
      let colons := colons.getD (stop == ':')
      let more :=
        if rest.length ≤ 1 then some ⟨[], 0, stop != '\x00'⟩
        else if colons && stop == ':' then readFields? next count (some colons) (rest.drop 1)
        else if stop == '.' || stop == ',' then readFraction? next (rest.drop 1)
        else if !colons then readFields? next count (some colons) rest
        else none
      more.map fun r => { r with fields := n :: r.fields }

def isZoneMark (c : Char) : Bool := c == '+' || c == '-' || c == 'Z'

/-- The offset of a signed reading; without whole seconds it is none at all, and it stays within a
day. -/
def zoneOffset? (negative : Bool) (r : Reading) : Option Int :=
  let seconds := r.fields.getD 0 0 * 3600 + r.fields.getD 1 0 * 60 + r.fields.getD 2 0
  if r.leftover then none
  else if seconds = 0 then some 0
  else if 86400 * 1000000 ≤ seconds * 1000000 + r.microsecond then none
  else some (signed negative (seconds * 1000000 + r.microsecond))

def readTime? (s : Text) : Option (Clock × Option Int) := do
  let body := s.takeWhile (!isZoneMark ·)
  let (time, offset) ← match s.dropWhile (!isZoneMark ·) with
    | [] => do
      let time ← readFields? '\x00' 3 none body
      if time.leftover then none else some (time, none)
    | mark :: rest => do
      let time ← readFields? mark 3 none body
      if mark = 'Z' then
        if octetAt rest 0 = '\x00' then some (time, some 0) else none
      else
        let zone ← readFields? '\x00' 3 none rest
        let offset ← zoneOffset? (mark == '-') zone
        some (time, some offset)
  let clock ← Clock.of? (time.fields.getD 0 0) (time.fields.getD 1 0) (time.fields.getD 2 0)
    time.microsecond
  some (clock, offset)

/-- How many octets the character takes up whose first octet this is. -/
def octetCount (c : Char) : Nat :=
  if c.toNat < 0x80 then 1
  else if c.toNat / 16 = 0xE then 3
  else if c.toNat / 16 = 0xF then 4
  else 2

/-- Reads a date, and a time after one more character. -/
def read? (t : Text) : Option Timestamp := do
  let s := octets t
  let length := dateLength s
  let date ← readDate? length s
  match s.drop length with
  | [] => some ⟨⟨date, .midnight⟩, none⟩
  | mark :: rest =>
    let (clock, offset) ← readTime? ((mark :: rest).drop (octetCount mark))
    some ⟨⟨date, clock⟩, offset⟩

end Iso
end MacroShell
