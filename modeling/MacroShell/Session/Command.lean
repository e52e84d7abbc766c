import MacroShell.Text.Case

/-!
# Commands

A command line is a name and its arguments, separated by space.
-/

namespace MacroShell

/-- A command line: the words of it, the text after the name as it was typed, and the whole. -/
structure Command where
  name : Text
  arguments : List Text
  argumentText : Text
  raw : Text
  deriving DecidableEq

namespace Command

/-- Reads a command line; a blank one has an empty name. -/
def read (line : Text) : Command :=
  match line.words with
  | [] => ⟨[], [], [], line⟩
  | name :: arguments => ⟨name, arguments, Text.trim (line.trim.drop name.length), line⟩

/-- The name in small letters, by which commands are told apart. -/
def keyword (c : Command) : Text := c.name.lower

def text (c : Command) : Text := Text.join [' '] (c.name :: c.arguments)

end Command
end MacroShell
