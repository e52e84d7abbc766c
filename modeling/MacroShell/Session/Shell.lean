import MacroShell.Session.World
import MacroShell.Text.Lines

/-!
# The system shell

A command line that the session does not know is handed to the system shell. Interactive programs
run attached to the terminal; of all others the output is captured and errors are marked.
-/

namespace MacroShell
namespace Shell

/-- Whether a command line starts with one of the given programs, in any letter case. -/
def isInteractive (programs : List Text) (commandLine : Text) : Bool :=
  match commandLine.words with
  | [] => false
  | word :: _ => (programs.map Text.lower).contains word.lower

/-- Captured output: the lines that are not empty, those of the error stream last and marked. -/
def outputText (c : Completion) : Text :=
  let filled (t : Text) := t.lines.filter (!·.isEmpty)
  Text.joinLines (filled c.stdout ++ (filled c.stderr).map ("ERROR: ".toList ++ ·))

def run (world : World) (settings : Settings) (commandLine : Text) (s : Session) :
    Outcome Result :=
  let attached := isInteractive settings.interactiveCommands commandLine
  let call : Call := ⟨commandLine, s.cwd, !attached, settings.shell⟩
  let answer := world.spawn s.asked call
  let s := s.ask (.call call)
  match answer with
  | .answered c => (.ok ⟨if attached then [] else outputText c, c.code⟩, s)
  | .failed message => (.error (.failed message), s)
  | .refused reason =>
    match commandLine.words with
    | [] => (.error .noCommand, s)
    | word :: _ => (.ok ⟨word ++ ": ".toList ++ reason, 1⟩, s)

end Shell
end MacroShell
