import MacroShell.Function.Block
import MacroShell.Session.Dispatch
import MacroShell.Text.Utf8

/-!
# Scripts

A script is a list of lines. Lines of a definition block are joined before they are run; a block
that is still open at the end is reported.
-/

namespace MacroShell

inductive ScriptError
  | notFound
  | malformed (e : Utf8Error)
  deriving DecidableEq

namespace Session

/-- Runs one line after an open block, or none. The answer holds the output unless it is empty, and
the block after the line unless the line ends the session. -/
def runLine (world : World) (settings : Settings) (block : Block) (line : Text) (s : Session) :
    Option Text × Option Block × Session :=
  match block.feed line with
  | (none, block) => (none, some block, s)
  | (some line, block) =>
    if line.isEmpty then (none, some block, s)
    else match execute world settings line s with
      | (none, s) => (none, none, s)
      | (some output, s) => (if output.isEmpty then none else some output, some block, s)

/-- What is reported at the end of a script: the block that is still open, if any. -/
def runEnd (block : Block) : Option Text :=
  match block.finish with
  | (.ok (), _) => none
  | (.error e, _) => some ("Error: ".toList ++ e.message)

/-- Runs the lines that follow an open block, or none, and collects the outputs that are not
empty. A line that ends the session ends the script. -/
def runLines (world : World) (settings : Settings) :
    Block → List Text → Session → List Text × Session
  | block, [], s => ((runEnd block).toList, s)
  | block, line :: rest, s =>
    match runLine world settings block line s with
    | (output, none, s) => (output.toList, s)
    | (output, some block, s) =>
      let (outputs, s) := runLines world settings block rest s
      (output.toList ++ outputs, s)

def runScript (world : World) (settings : Settings) (lines : List Text) (s : Session) :
    List Text × Session :=
  runLines world settings .none lines s

def scriptLines (bytes : List UInt8) : Except Utf8Error (List Text) :=
  (Utf8.decode bytes).map fun t => t.unifyLineEnds.lines

def runFile (world : World) (settings : Settings) (path : Text) (s : Session) :
    Except ScriptError (List Text) × Session :=
  match world.fileBytes? s.asked path with
  | none => (.error .notFound, s)
  | some bytes =>
    match scriptLines bytes with
    | .error e => (.error (.malformed e), s)
    | .ok lines =>
      let (outputs, s) := runScript world settings lines s
      (.ok outputs, s)

end Session
end MacroShell
