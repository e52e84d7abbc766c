import MacroShell.Text.Basic

/-!
# Lines

Cutting a text at its line boundaries, and reading all line ends as line feeds.
-/

namespace MacroShell

def isLineEnd (c : Char) : Bool :=
  c ∈ ['\n', '\r', '\x0b', '\x0c', '\x1c', '\x1d', '\x1e', '\u0085', '\u2028', '\u2029']

namespace Text

/-- The lines of a text without their ends; a carriage return and a line feed end one line
together, and nothing follows the last end. -/
def lines : Text → List Text
  | [] => []
  | '\r' :: '\n' :: rest => [] :: lines rest
  | c :: rest => if isLineEnd c then [] :: lines rest else consHead c (lines rest)

/-- The text with every carriage return, alone or before a line feed, read as a line feed. -/
def unifyLineEnds : Text → Text
  | [] => []
  | '\r' :: '\n' :: rest => '\n' :: unifyLineEnds rest
  | c :: rest => (if c = '\r' then '\n' else c) :: unifyLineEnds rest

end Text
end MacroShell
