import MacroShell.Language.Kind

/-!
# Converters

A converter turns the text of a value into another text. It is found under a key: the name of a
type for the conversion that normalises its values, or the name of a type and of an operation.
-/

namespace MacroShell

inductive Converter
  | number
  | time
  | string
  | boolean
  | date
  | numberLength
  | numberDouble
  | numberAbs
  | numberNeg
  | numberRound
  | timeSec
  | timeMin
  | timeHour
  | timeDay
  | stringUpper
  | stringLower
  | stringLength
  | booleanNot
  | booleanNumber
  | timeNumber
  | numberString
  | stringNumber
  | dateTime
  | dateNow
  | dateUtc
  | dateToday
  deriving DecidableEq

namespace Converter

/-- All converters, in the order they are listed in. -/
def all : List Converter := [
  number, time, string, boolean, date,
  numberLength, numberDouble, numberAbs, numberNeg, numberRound,
  timeSec, timeMin, timeHour, timeDay,
  stringUpper, stringLower, stringLength,
  booleanNot, booleanNumber,
  timeNumber, numberString, stringNumber,
  dateTime, dateNow, dateUtc, dateToday]

def source : Converter → Kind
  | number | numberLength | numberDouble | numberAbs | numberNeg | numberRound
  | numberString => .number
  | time | timeSec | timeMin | timeHour | timeDay | timeNumber => .time
  | string | stringUpper | stringLower | stringLength | stringNumber => .string
  | boolean | booleanNot | booleanNumber => .boolean
  | date | dateTime | dateNow | dateUtc | dateToday => .date

/-- The name of the operation; a normalising conversion has none. -/
def operation? : Converter → Option Text
  | number | time | string | boolean | date => none
  | numberLength | stringLength => some "Length".toList
  | numberDouble => some "Double".toList
  | numberAbs => some "Abs".toList
  | numberNeg => some "Neg".toList
  | numberRound => some "Round".toList
  | timeSec => some "Sec".toList
  | timeMin => some "Min".toList
  | timeHour => some "Hour".toList
  | timeDay => some "Day".toList
  | stringUpper => some "Upper".toList
  | stringLower => some "Lower".toList
  | booleanNot => some "Not".toList
  | booleanNumber | timeNumber | stringNumber => some "Number".toList
  | numberString => some "String".toList
  | dateTime => some "Time".toList
  | dateNow => some "Now".toList
  | dateUtc => some "UTC".toList
  | dateToday => some "Today".toList

def key (c : Converter) : Text :=
  match c.operation? with
  | none => c.source.name
  | some operation => c.source.name ++ '.' :: operation

/-- The converter under a key, in any letter case and with space around it. -/
def ofKey? (t : Text) : Option Converter := all.find? fun c => c.key.lower = t.trim.lower

end Converter
end MacroShell
