import MacroShell.Calculator.Evaluate
import MacroShell.Number.Format
import MacroShell.Session.Command
import MacroShell.Session.Path
import MacroShell.Session.World

/-!
# Built-in commands

The commands that a session carries out itself. They are found by keyword, in any letter case.
-/

namespace MacroShell

inductive Builtin
  | changeDirectory
  | printDirectory
  | clearScreen
  | echo
  | define
  | listFunctions
  | deleteFunction
  | calculate
  | help
  deriving DecidableEq

namespace Builtin

def keywords : List (Text × Builtin) := [
  ("calc".toList, calculate),
  ("cd".toList, changeDirectory),
  ("chdir".toList, changeDirectory),
  ("clear".toList, clearScreen),
  ("cls".toList, clearScreen),
  ("def".toList, define),
  ("delfunc".toList, deleteFunction),
  ("echo".toList, echo),
  ("help".toList, help),
  ("listfuncs".toList, listFunctions),
  ("pwd".toList, printDirectory)]

def ofKeyword? (keyword : Text) : Option Builtin := keywords.lookup keyword

def summary : Builtin → Text
  | changeDirectory => "Change the working directory.".toList
  | printDirectory => "Print the working directory.".toList
  | clearScreen => "Clear the terminal screen.".toList
  | echo => "Print the arguments separated by single spaces.".toList
  | define => "Define a function: def NAME => COMMAND or def NAME => [ CMD ; CMD ].".toList
  | listFunctions => "List the defined functions.".toList
  | deleteFunction => "Delete a function.".toList
  | calculate => "Evaluate an arithmetic expression with + - * / ^ and parentheses.".toList
  | help => "Show the built-in commands.".toList

def helpText : Text :=
  Text.joinLines (["Built-in commands:".toList] ++
    keywords.map (fun (keyword, b) =>
      "  ".toList ++ keyword.padRight 12 ++ " ".toList ++ b.summary) ++
    [[], "Macro expressions: $[Type: value => Step => ...]".toList,
      "Anything else is passed to the system shell.".toList])

/-- Clears the screen and moves to its first position. -/
def clearSequence : Text := "\x1b[2J\x1b[H".toList

/-- Moves to the directory that the argument means from the present one, if there is one. -/
def moveTo (world : World) (c : Command) (s : Session) : Outcome Result :=
  if c.argumentText.isEmpty then (.ok ⟨s.cwd, 0⟩, s)
  else
    let path := Path.resolve s.cwd c.argumentText
    let answer := world.isDirectory s.asked path
    let s := s.ask (.directory path)
    match answer with
    | .answered true =>
      (.ok ⟨"Current directory changed to: ".toList ++ path, 0⟩, { s with cwd := path })
    | .answered false =>
      (.ok ⟨"The system cannot find the path specified: ".toList ++ c.argumentText, 1⟩, s)
    | .refused reason => (.ok ⟨c.name ++ ": ".toList ++ reason, 1⟩, s)
    | .failed message => (.error (.failed message), s)

/-- Stores a function, or tells what is wrong with the definition. -/
def store (source : Text) (s : Session) : Result × Session :=
  match s.functions.defineFrom source with
  | .ok (d, functions) =>
    (⟨"Function '".toList ++ d.name ++ "' defined".toList, 0⟩, { s with functions := functions })
  | .error e => (⟨"Error: ".toList ++ e.message, 1⟩, s)

def delete (c : Command) (s : Session) : Result × Session :=
  match c.arguments with
  | [] => (⟨"Usage: delfunc <name>".toList, 1⟩, s)
  | name :: _ =>
    match s.functions.delete name with
    | (true, functions) =>
      (⟨"Function '".toList ++ name ++ "' deleted".toList, 0⟩, { s with functions := functions })
    | (false, _) => (⟨"Function '".toList ++ name ++ "' does not exist".toList, 1⟩, s)

def calculation (expression : Text) : Result :=
  match Arithmetic.binary64.calculate expression with
  | .ok x => ⟨floatText x, 0⟩
  | .error e => ⟨"calc: ".toList ++ e.message, 1⟩

def list (s : Session) : Outcome Result :=
  match s.functions.listing? with
  | some text => (.ok ⟨text, 0⟩, s)
  | none => (.error .noDisplay, s)

def run (world : World) (b : Builtin) (c : Command) (s : Session) : Outcome Result :=
  match b with
  | changeDirectory => moveTo world c s
  | printDirectory => (.ok ⟨s.cwd, 0⟩, s)
  | clearScreen => (.ok ⟨clearSequence, 0⟩, s)
  | echo => (.ok ⟨Text.join [' '] c.arguments, 0⟩, s)
  | define => let (r, s) := store c.raw s; (.ok r, s)
  | listFunctions => list s
  | deleteFunction => let (r, s) := delete c s; (.ok r, s)
  | calculate => (.ok (calculation c.argumentText), s)
  | help => (.ok ⟨helpText, 0⟩, s)

end Builtin
end MacroShell
