import MacroShell.Calendar.Moment
import MacroShell.Function.Table
import MacroShell.Text.Template

/-!
# A session and its surroundings

A session has a working directory, a table of functions and the exit status of the last command.
What it cannot decide by itself it asks its surroundings, and it keeps a record of what it asked.
-/

namespace MacroShell

/-- A command line handed to the system shell: where it runs, whether its output is captured, and
which shell is to be used if not the usual one. -/
structure Call where
  command : Text
  cwd : Text
  captured : Bool
  shell : Option Text
  deriving DecidableEq

structure Completion where
  stdout : Text
  stderr : Text
  code : Int
  deriving DecidableEq

/-- How the surroundings answer a request. -/
inductive Reply (α : Type)
  | answered (a : α)
  /-- The operating system refuses the request. -/
  | refused (reason : Text)
  /-- The request breaks off the line that made it. -/
  | failed (message : Text)

/-- What a session asks of its surroundings. -/
inductive Query
  | directory (path : Text)
  | call (c : Call)
  deriving DecidableEq

def Query.call? : Query → Option Call
  | call c => some c
  | directory _ => none

/-- The surroundings of a session. They may change while a line is run: what they answer, and what
time it is, depends on all that was asked before. -/
structure World where
  now : List Query → Moment
  spawn : List Query → Call → Reply Completion
  isDirectory : List Query → Text → Reply Bool
  fileBytes? : List Query → Text → Option (List UInt8)

def Template.fillDirectory (named : NamedParts) (format cwd : Text) : Except TemplateError Text :=
  render named (fun name => if name = "cwd".toList then some cwd else none) format

structure Settings where
  promptFormat : Text := "\x7bcwd\x7d>".toList
  /-- How the working directory is filled into the prompt format. Unless this says otherwise, it has
  no parts that go by a name. -/
  fillIn : Text → Text → Except TemplateError Text :=
    Template.fillDirectory fun _ name _ => .error (.noPart name)
  continuationPrompt : Text := "... ".toList
  colors : Bool := true
  /-- How deeply function calls may be nested. -/
  depthLimit : Option Int := some 64
  /-- How many calls inside each other the stack can hold, whatever the limit is. -/
  stackCapacity : Nat := 490
  interactiveCommands : List Text :=
    ["cmd".toList, "powershell".toList, "bash".toList, "ssh".toList, "telnet".toList]
  shell : Option Text := none

structure Session where
  cwd : Text
  exitCode : Int
  functions : FunctionTable
  asked : List Query
  deriving DecidableEq

namespace Session

/-- A session that has not run anything. -/
def start (cwd : Text) : Session := ⟨cwd, 0, .empty, []⟩

/-- Puts a question on record. -/
def ask (q : Query) (s : Session) : Session := { s with asked := s.asked ++ [q] }

/-- The command lines handed to the system shell so far. -/
def calls (s : Session) : List Call := s.asked.filterMap Query.call?

end Session

inductive Interruption
  /-- A function would be nested deeper than the limit. -/
  | tooDeep (name : Text) (limit : Int)
  | stackExhausted
  /-- The surroundings have failed. -/
  | failed (message : Text)
  /-- A line without a command was refused by the operating system. -/
  | noCommand
  /-- A function without a command cannot be shown. -/
  | noDisplay
  deriving DecidableEq

def Interruption.message : Interruption → Text
  | tooDeep name limit =>
    "maximum macro call depth (".toList ++ integerText limit ++ ") exceeded while invoking '".toList
      ++ name ++ "'".toList
  | stackExhausted => "maximum recursion depth exceeded".toList
  | failed message => message
  | noCommand | noDisplay => "list index out of range".toList

structure Result where
  text : Text
  exitCode : Int
  deriving DecidableEq

/-- What an action of a session gives, unless it is interrupted, and the state after it; what was
done before an interruption stays done. -/
abbrev Outcome (α : Type) := Except Interruption α × Session

/-- The prompt for a line: the working directory as the format says, green where there are
colors. -/
def Settings.prompt (settings : Settings) (cwd : Text) : Except TemplateError Text :=
  (settings.fillIn settings.promptFormat cwd).map fun prompt =>
    if settings.colors then "\x1b[32m".toList ++ prompt ++ "\x1b[0m".toList else prompt

end MacroShell
