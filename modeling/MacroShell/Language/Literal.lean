import MacroShell.Calendar.Duration
import MacroShell.Calendar.Literal
import MacroShell.Language.Kind
import MacroShell.Number.Format

/-!
# Detecting types

The type of a literal is the first in a fixed order that recognises it: date, time, number,
boolean, and string for all that is left.
-/

namespace MacroShell

def readBoolean? (t : Text) : Option Bool :=
  if t.trim.lower = "true".toList then some true
  else if t.trim.lower = "false".toList then some false
  else none

/-- The type of a literal. A bare integer has the shape of a duration. -/
def detectKind (now : Moment) (t : Text) : Kind :=
  let t := t.trim
  if (readMoment? now t).isSome then .date
  else if Duration.isShape t then .time
  else if (Number.read? t).isSome then .number
  else if (readBoolean? t).isSome then .boolean
  else .string

end MacroShell
