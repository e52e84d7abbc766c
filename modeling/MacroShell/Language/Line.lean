import MacroShell.Language.Span

/-!
# Lines with spans

Expanding a line replaces its spans from left to right, in one pass, and keeps everything else.
-/

namespace MacroShell

/-- A part of a line: a character that stands for itself, or a span and its length. -/
inductive Piece
  | plain (c : Char)
  | span (m : Macro) (length : Nat)
  deriving DecidableEq

structure Span where
  content : Macro
  start : Nat
  stop : Nat
  deriving DecidableEq

namespace Line

/-- The pieces of a line whose first characters, as many as given, belong to a span before. -/
def piecesAfter : Nat → Text → List Piece
  | _, [] => []
  | skip + 1, _ :: rest => piecesAfter skip rest
  | 0, c :: rest =>
    match Macro.readFront? (c :: rest) with
    | some (m, length) => .span m length :: piecesAfter (length - 1) rest
    | none => .plain c :: piecesAfter 0 rest

/-- The pieces of a line; of overlapping spans the first counts. -/
def pieces (line : Text) : List Piece := piecesAfter 0 line

/-- The spans among pieces that start at a position. -/
def spansFrom (position : Nat) : List Piece → List Span
  | [] => []
  | .plain _ :: rest => spansFrom (position + 1) rest
  | .span m length :: rest =>
    ⟨m, position, position + length⟩ :: spansFrom (position + length) rest

def spans (line : Text) : List Span := spansFrom 0 (pieces line)

def expandPiece (now : Moment) : Piece → Text
  | .plain c => [c]
  | .span m _ => m.evaluate now

/-- The line with every span replaced by its value; a blank line is not looked at. -/
def expand (now : Moment) (line : Text) : Text :=
  if line.isBlank then line else (pieces line).flatMap (expandPiece now)

end Line
end MacroShell
