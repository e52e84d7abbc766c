import MacroShell.CommandLine.Run
import Std.Time

/-!
# The program

Reads arguments, files and the keyboard, asks for the time and for directories, and prints. No
system shell is attached to the program, so that every command line for it is refused.
-/

namespace MacroShell
namespace Program

/-- What is known about directories: the answer to the last question of each record. -/
abbrev Directories := List (List Query × Bool)

def lookUpDirectory (path : Text) : IO Bool := do
  try
    let real ← IO.FS.realPath (String.ofList path)
    real.isDir
  catch _ => pure false

def localTime : IO Moment := do
  let now ← Std.Time.PlainDateTime.now
  let date := Date.of? now.year.toInt.toNat now.month.val.toNat now.day.val.toNat
  let clock := Clock.of? now.hour.val.toNat now.minute.val.toNat now.second.val.toNat 0
  pure ⟨date.getD Moment.epoch.date, clock.getD .midnight⟩

/-- The surroundings as far as they are known. A question that has no answer yet breaks off the line
that asks, so that the line can be run again with the answer. -/
def surroundings (now : Moment) (known : Directories) : World where
  now _ := now
  spawn _ _ := .refused "no system shell is attached".toList
  isDirectory asked path :=
    ((known.lookup (asked ++ [.directory path])).map Reply.answered).getD (.failed path)
  fileBytes? _ _ := none

/-- Looks up directories until every question of a line can be answered. -/
partial def learn (now : Moment) (settings : Settings) (line : Text) (s : Session)
    (known : Directories) : IO Directories := do
  match Session.runAt (surroundings now known) settings 0 line s with
  | (.error (.failed path), t) =>
    learn now settings line s ((t.asked, ← lookUpDirectory path) :: known)
  | _ => pure known

/-- The surroundings in which the next line is run. -/
def prepare (settings : Settings) (block : Block) (line : Text) (s : Session) : IO World := do
  let now ← localTime
  match (block.feed line).1 with
  | some logical => surroundings now <$> learn now settings logical s []
  | none => pure (surroundings now [])

def printText (t : Text) : IO Unit := IO.println (String.ofList t)

def runScriptLines (settings : Settings) : Block → List Text → Session → IO Session
  | block, [], s => do
    (Session.runEnd block).forM printText
    pure s
  | block, line :: rest, s => do
    let world ← prepare settings block line s
    let (output, block, s) := Session.runLine world settings block line s
    output.forM printText
    match block with
    | some block => runScriptLines settings block rest s
    | none => pure s

def runScriptFiles (settings : Settings) : List Text → Session → IO Session
  | [], s => pure s
  | path :: rest, s => do
    let bytes ← try some <$> IO.FS.readBinFile (String.ofList path) catch _ => pure none
    match bytes.map fun b => Session.scriptLines b.toList with
    | none =>
      printText (Report.notFound path)
      runScriptFiles settings rest s
    | some (.error e) =>
      printText (Report.unreadable e)
      runScriptFiles settings rest s
    | some (.ok lines) => runScriptFiles settings rest (← runScriptLines settings .none lines s)

/-- Prompts for lines and runs them until the console stops. A prompt that cannot be formed is
complained about for ever. -/
partial def converse (settings : Settings) (c : Console) : IO Unit := do
  if c.running then
    match c.prompt settings with
    | .error e =>
      printText ("Error: ".toList ++ e.message)
      converse settings c
    | .ok prompt =>
      IO.print (String.ofList prompt)
      (← IO.getStdout).flush
      let typed ← (← IO.getStdin).getLine
      let event : KeyboardEvent :=
        if typed.isEmpty then .endOfInput
        else .line (Text.dropLineFeed typed.toList)
      let world ← match event with
        | .line line => prepare settings c.block line c.session
        | _ => pure (surroundings .epoch [])
      let (printed, c) := c.react world settings event
      printed.forM printText
      converse settings c

/-- Runs what the options ask for; the answer is the exit status. -/
def runOptions (options : Options) : IO Int := do
  let settings := options.settings
  let s := Session.start (Path.normalise (← IO.currentDir).toString.toList)
  match options.task with
  | .scripts files => pure (← runScriptFiles settings files s).exitCode
  | .command line =>
    let world ← prepare settings .none line s
    let (output, s) := Session.execute world settings line s
    (output.filter (!·.isEmpty)).forM printText
    pure s.exitCode
  | .console =>
    printText Console.banner
    converse settings (.start s)
    pure 0

/-- Runs the program; the answer is the exit status. -/
def run (args : List String) : IO UInt32 := do
  match Invocation.read (args.map String.toList) with
  | .run options => pure (← runOptions options).toNat.toUInt32
  | .help => pure 0
  | .misuse => pure 2

end Program
end MacroShell

def main (args : List String) : IO UInt32 := MacroShell.Program.run args
