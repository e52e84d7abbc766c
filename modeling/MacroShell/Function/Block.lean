import MacroShell.Function.Definition

/-!
# Definition blocks

A definition whose brackets are still open takes in the lines that follow until they are
balanced; together these lines make one logical line.
-/

namespace MacroShell

/-- How many more opening than closing brackets a text has. -/
def bracketDepth (t : Text) : Int := (t.count '[' : Int) - t.count ']'

/-- The lines of the block that is open, if any, and its depth. -/
structure Block where
  lines : List Text
  depth : Int
  deriving DecidableEq

namespace Block

def none : Block := ⟨[], 0⟩

def isOpen (b : Block) : Bool := !b.lines.isEmpty

/-- Whether a line opens a block: a definition with an arrow and an open bracket. -/
def opens (line : Text) : Bool :=
  Definition.isDefinition line && line.cutArrow?.isSome && 0 < bracketDepth line

/-- Takes in one line. The answer is a logical line, unless a block is open after it. -/
def feed (b : Block) (line : Text) : Option Text × Block :=
  let line := line.trim
  if b.lines.isEmpty then
    if opens line then (Option.none, ⟨[line], bracketDepth line⟩) else (some line, b)
  else
    let lines := b.lines ++ [line]
    let depth := b.depth + bracketDepth line
    if 0 < depth then (Option.none, ⟨lines, depth⟩) else (some (Text.joinLines lines), none)

/-- Ends the input, which is an error while a block is open. The block after it is closed. -/
def finish (b : Block) : Except DefinitionError Unit × Block :=
  match b.lines with
  | [] => (.ok (), b)
  | opening :: _ => (.error (.unterminated opening), none)

end Block
end MacroShell
