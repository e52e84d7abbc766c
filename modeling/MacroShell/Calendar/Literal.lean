import MacroShell.Calendar.Iso
import MacroShell.Calendar.Layout
import MacroShell.Unicode.Digit

/-!
# Date literals

A date literal is an ISO 8601 text, or follows one of the layouts of dates, or is a time of day,
which is meant for today.
-/

namespace MacroShell

/-- Reads a date literal with space around it. A text of digits alone is not read as ISO 8601. -/
def readMoment? (now : Moment) (t : Text) : Option Timestamp :=
  let t := t.trim
  if t.isEmpty then none
  else
    let iso := if t.all isDigit then none else Iso.read? t
    let dated := Layout.dates.findSome? (·.read? t)
    let timed := Layout.clocks.findSome? (·.read? t)
    iso <|> dated.map (⟨·, none⟩) <|> timed.map fun m => ⟨⟨now.date, m.clock⟩, none⟩

end MacroShell
