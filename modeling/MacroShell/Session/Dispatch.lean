import MacroShell.Language.Line
import MacroShell.Session.Builtin
import MacroShell.Session.Shell

/-!
# Running command lines

A line is a call of a function if it is the name of one. A definition is stored as it stands; its
spans are expanded anew by each call. Any other line is expanded and then carried out as a built-in
command or handed to the system shell.
-/

namespace MacroShell
namespace Session

def runCommand (world : World) (settings : Settings) (c : Command) (s : Session) :
    Outcome Result :=
  if c.name.isEmpty then (.ok ⟨[], 0⟩, s)
  else match Builtin.ofKeyword? c.keyword with
    | some b => b.run world c s
    | none => Shell.run world settings c.raw.trim s

/-- Carries out a trimmed line that is not the name of a function. -/
def runLeaf (world : World) (settings : Settings) (line : Text) (s : Session) : Outcome Result :=
  if Definition.isDefinition line then
    let (r, s) := Builtin.store line s
    (.ok r, s)
  else runCommand world settings (Command.read (Line.expand (world.now s.asked) line)) s

/-- Records the exit status of a result and keeps its text. -/
def conclude : Outcome Result → Outcome (Option Text)
  | (.ok r, s) => (.ok (some r.text), { s with exitCode := r.exitCode })
  | (.error e, s) => (.error e, s)

/-- Runs lines one after another and collects the outputs that are not empty. -/
def replay (run : Text → Session → Outcome (Option Text)) :
    List Text → Session → Outcome (List Text)
  | [], s => (.ok [], s)
  | line :: rest, s =>
    match run line s with
    | (.error e, s) => (.error e, s)
    | (.ok output, s) =>
      match replay run rest s with
      | (.error e, s) => (.error e, s)
      | (.ok outputs, s) => (.ok ((output.filter (!·.isEmpty)).toList ++ outputs), s)

def isExit (line : Text) : Bool := line.lower = "exit".toList || line.lower = "quit".toList

/-- What breaks off a call at a depth of nested calls, if it has no room: the limit, or else the
stack. -/
def noRoom (settings : Settings) (depth : Nat) (d : Definition) : Interruption :=
  match settings.depthLimit with
  | some limit => if limit ≤ depth then .tooDeep d.name limit else .stackExhausted
  | none => .stackExhausted

/-- Runs a line at a depth of nested calls, with room for so many more. The answer is missing for a
line that ends the session, which only a line outside all functions can do. -/
def dispatch (world : World) (settings : Settings) (room depth : Nat) (line : Text) (s : Session) :
    Outcome (Option Text) :=
  if line.isBlank then (.ok (some []), s)
  else if depth = 0 && isExit line.trim then (.ok none, s)
  else match s.functions.get? line.trim with
    | none => conclude (runLeaf world settings line.trim s)
    | some d =>
      match room with
      | 0 => (.error (noRoom settings depth d), s)
      | room + 1 =>
        match replay (dispatch world settings room (depth + 1)) d.commands s with
        | (.ok outputs, s) => (.ok (some (Text.joinLines outputs)), s)
        | (.error e, s) => (.error e, s)

/-- The room for calls in a line at a depth: what the limit leaves of the stack. -/
def roomAt (settings : Settings) (depth : Nat) : Nat :=
  match settings.depthLimit with
  | some limit => min (limit - depth).toNat settings.stackCapacity
  | none => settings.stackCapacity

def runAt (world : World) (settings : Settings) (depth : Nat) (line : Text) (s : Session) :
    Outcome (Option Text) :=
  dispatch world settings (roomAt settings depth) depth line s

/-- Answers for an interruption with its message and the exit status 1. -/
def report : Outcome (Option Text) → Option Text × Session
  | (.ok output, s) => (output, s)
  | (.error e, s) => (some ("Error: ".toList ++ e.message), { s with exitCode := 1 })

/-- Runs a line outside all functions; the answer is missing for a line that ends the session. -/
def execute (world : World) (settings : Settings) (line : Text) (s : Session) :
    Option Text × Session :=
  report (runAt world settings 0 line s)

end Session
end MacroShell
