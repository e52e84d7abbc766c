import MacroShell.CommandLine.Invocation
import MacroShell.Session.Console
import MacroShell.Session.Script

/-!
# Running the program

What a run of the program leaves: its exit status, what it shows, and the session.
-/

namespace MacroShell

structure Report where
  exitCode : Int
  transcript : Transcript
  session : Session

namespace Report

def notFound (path : Text) : Text := "File not found: ".toList ++ path

/-- What is printed for a script file that is no text. -/
def unreadable (e : Utf8Error) : Text := "Error processing file: ".toList ++ e.message

/-- Runs one script file; the answer is what is printed. -/
def runFile (world : World) (settings : Settings) (path : Text) (s : Session) :
    List Text × Session :=
  match s.runFile world settings path with
  | (.ok outputs, s) => (outputs, s)
  | (.error .notFound, s) => ([notFound path], s)
  | (.error (.malformed e), s) => ([unreadable e], s)

def runFiles (world : World) (settings : Settings) : List Text → Session → List Text × Session
  | [], s => ([], s)
  | path :: rest, s =>
    let (printed, s) := runFile world settings path s
    let (more, s) := runFiles world settings rest s
    (printed ++ more, s)

/-- Runs what the options ask for in a working directory. -/
def ofOptions (world : World) (options : Options) (events : List KeyboardEvent) (cwd : Text) :
    Report :=
  let settings := options.settings
  let s := Session.start (Path.normalise cwd)
  match options.task with
  | .scripts files =>
    let (printed, s) := runFiles world settings files s
    ⟨s.exitCode, ⟨printed, []⟩, s⟩
  | .command line =>
    let (output, s) := s.execute world settings line
    ⟨s.exitCode, ⟨(output.filter (!·.isEmpty)).toList, []⟩, s⟩
  | .console =>
    let (transcript, c) := Console.run world settings events s
    ⟨0, transcript, c.session⟩

end Report
end MacroShell
