import MacroShell.Language.Converter
import MacroShell.Language.Literal
import MacroShell.Text.Quoted

/-!
# Conversions

What each converter makes of a text. Most converters leave a text alone that is not of the kind
they need; a few refuse it, and numbers past the digit limit are refused by all that write them.
-/

namespace MacroShell

inductive Conversion
  /-- The new text. -/
  | done (text : Text)
  /-- The text is not of the kind the converter needs. -/
  | refused (reason : Text)
  /-- A number on the way is past the digit limit. -/
  | tooLong
  deriving DecidableEq

namespace Converter

/-- The new text if there is one, and else the failure of a number past the digit limit. -/
def written : Option Text → Conversion
  | some t => .done t
  | none => .tooLong

def normaliseNumber (t : Text) : Text :=
  match readInteger? t with
  | some n => integerText n
  | none => t

/-- Writes a number of seconds as a duration and leaves any other text alone. -/
def normaliseTime (t : Text) : Conversion :=
  match if Duration.isLiteral t then readInteger? t else none with
  | some n => written (Duration.text? n)
  | none => .done t

/-- Writes a date literal in the canonical form and leaves any other text alone. -/
def normaliseDate (now : Moment) (t : Text) : Text :=
  match readMoment? now t with
  | some stamp => stamp.moment.text
  | none => t

def onNumber (operation : Number → Number) (t : Text) : Conversion :=
  match Number.read? t with
  | some n => written (operation n).text?
  | none => .done t

/-- Rounds a finite number to an integer and leaves any other text alone. -/
def roundNumber (t : Text) : Conversion :=
  match (readDecimal? t).bind Dyadic.ofFloat? with
  | some d => written (integerText? d.round)
  | none => .done t

def inSeconds (t : Text) : Conversion := written ((Duration.read? t).bind integerText?)

/-- A duration in a larger unit, rounded to a whole number of it. -/
def inUnits (size : Nat) (t : Text) : Conversion :=
  written ((Duration.read? t).bind fun n => integerText? (roundQuotient n size))

/-- The moment a duration after an origin, or the text itself where the calendar ends. -/
def after (origin : Moment) (t : Text) : Conversion :=
  match Duration.read? t with
  | some n => .done (((origin.add? n).map Moment.text).getD t)
  | none => .tooLong

def onBoolean (f : Bool → Text) (t : Text) : Conversion :=
  match readBoolean? t with
  | some b => .done (f b)
  | none => .refused ("not a boolean: ".toList ++ t.quoted)

/-- The time of day of a date literal as a duration; any other text is left alone. -/
def timeOfDay (now : Moment) (t : Text) : Conversion :=
  match readMoment? now t with
  | some stamp =>
    let c := stamp.moment.clock
    written (Duration.ofClock? c.hour c.minute c.second)
  | none => .done t

/-- Writes a number in floating point; any other text is refused. -/
def inFloat (t : Text) : Conversion :=
  match readDecimal? t with
  | some x => .done (floatText x)
  | none => .refused ("not a number: ".toList ++ t.quoted)

def apply (now : Moment) : Converter → Text → Conversion
  | number, t => .done (normaliseNumber t)
  | time, t => normaliseTime t
  | string, t | numberString, t => .done t
  | boolean, t | stringLower, t => .done t.lower
  | date, t => .done (normaliseDate now t)
  | numberLength, t | stringLength, t => .done (naturalText t.length)
  | numberDouble, t => inFloat t
  | numberAbs, t => onNumber Number.abs t
  | numberNeg, t => onNumber Number.neg t
  | numberRound, t => roundNumber t
  | timeSec, t | timeNumber, t => inSeconds t
  | timeMin, t => inUnits 60 t
  | timeHour, t => inUnits 3600 t
  | timeDay, t => inUnits 86400 t
  | stringUpper, t => .done t.upper
  | booleanNot, t => onBoolean (fun b => if b then "false".toList else "true".toList) t
  | booleanNumber, t => onBoolean (fun b => if b then ['1'] else ['0']) t
  | stringNumber, t => .done (if (readDecimal? t).isSome then t else ['0'])
  | dateTime, t => timeOfDay now t
  | dateNow, t => after now t
  | dateUtc, t => after .epoch t
  | dateToday, t => after now.startOfDay t

end Converter
end MacroShell
