import MacroShell.Function.Block
import MacroShell.Session.Dispatch

/-!
# The console

An interactive session prompts for a line, runs it and prints what it answers, until a line or the
end of the input ends it.
-/

namespace MacroShell

inductive KeyboardEvent
  | line (t : Text)
  /-- The interrupt key. -/
  | interrupt
  /-- Reading a line has failed. -/
  | failure (message : Text)
  | endOfInput
  deriving DecidableEq

/-- An interactive session, the definition block that is open in it, and whether it goes on. -/
structure Console where
  session : Session
  block : Block
  running : Bool
  deriving DecidableEq

/-- What an interactive session shows: the texts it prints, each on lines of its own, and the
prompts. -/
structure Transcript where
  printed : List Text
  prompts : List Text
  deriving DecidableEq

namespace Console

def banner : Text := "QiCmd - type 'help' for built-in commands, 'exit' to quit".toList

def start (s : Session) : Console := ⟨s, .none, true⟩

/-- The prompt for the next line; inside a block it is the one for continuation lines. -/
def prompt (settings : Settings) (c : Console) : Except TemplateError Text :=
  if c.block.isOpen then .ok settings.continuationPrompt else settings.prompt c.session.cwd

/-- Deals with one event; the answer is what is printed. The interrupt key drops the open block. -/
def react (world : World) (settings : Settings) (c : Console) :
    KeyboardEvent → Option Text × Console
  | .endOfInput => (some [], { c with running := false })
  | .interrupt => (some "^C".toList, { c with block := .none })
  | .failure message => (some ("Error: ".toList ++ message), c)
  | .line t =>
    match c.block.feed t with
    | (none, block) => (none, { c with block := block })
    | (some line, block) =>
      match Session.execute world settings line c.session with
      | (none, s) => (none, ⟨s, block, false⟩)
      | (some output, s) => (if output.isEmpty then none else some output, ⟨s, block, true⟩)

/-- Puts a prompt and what was printed after it in front of a transcript. -/
def record (prompt : Text) (printed : Option Text) (t : Transcript) : Transcript :=
  ⟨printed.toList ++ t.printed, prompt :: t.prompts⟩

/-- Deals with events up to the end of the input. While the prompt cannot be formed nothing is
read, so that the console goes on without end; it is then left running. -/
def runEvents (world : World) (settings : Settings) :
    List KeyboardEvent → Console → Transcript × Console
  | events, c =>
    match c.prompt settings, events with
    | .error _, _ => (⟨[], []⟩, c)
    | .ok prompt, [] =>
      let (printed, c) := c.react world settings .endOfInput
      (record prompt printed ⟨[], []⟩, c)
    | .ok prompt, event :: rest =>
      let (printed, c) := c.react world settings event
      if c.running then
        let (t, c) := runEvents world settings rest c
        (record prompt printed t, c)
      else (record prompt printed ⟨[], []⟩, c)

def run (world : World) (settings : Settings) (events : List KeyboardEvent) (s : Session) :
    Transcript × Console :=
  let (t, c) := runEvents world settings events (start s)
  (⟨banner :: t.printed, t.prompts⟩, c)

end Console
end MacroShell
