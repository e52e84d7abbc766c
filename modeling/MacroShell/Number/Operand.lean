import MacroShell.Number.Decimal

/-!
# Operands

Numbers as they are typed for a calculation or on the command line: low lines may group digits,
and special values have names.
-/

namespace MacroShell

/-- Whether a character is space for a numeric operand: the information separators are not. -/
def isOperandSpace (c : Char) : Bool := isSpace c && !(0x1C ≤ c.toNat && c.toNat ≤ 0x1F)

def trimOperand (t : Text) : Text :=
  ((t.dropWhile isOperandSpace).reverse.dropWhile isOperandSpace).reverse

/-- Drops single low lines between digits; any other low line makes the text no number. -/
def dropLowLines? : Text → Option Text
  | [] => some []
  | '_' :: _ => none
  | c :: '_' :: d :: rest =>
    if isDecimal c && isDecimal d then (c :: ·) <$> dropLowLines? (d :: rest) else none
  | c :: rest => (c :: ·) <$> dropLowLines? rest

def specialValue? (name : Text) : Option Float :=
  if name = "inf".toList || name = "infinity".toList then some (1.0 / 0.0)
  else if name = "nan".toList then some (0.0 / 0.0)
  else none

/-- Reads an operand: a decimal literal, in which low lines may group digits, or the name of a
special value, with a sign and space around it. -/
def readOperand? (t : Text) : Option Float :=
  let t := trimOperand t
  let (negative, name) := takeSign t
  match specialValue? (name.map Char.toLower) with
  | some x => some (if negative then -x else x)
  | none => (dropLowLines? t).bind fun digits => (Decimal.read? digits).map Decimal.toFloat

/-- Reads an integer operand: digits, in which low lines may group digits, with a sign and space
around it, within the digit limit. -/
def readIntegerOperand? (t : Text) : Option Int :=
  (dropLowLines? (trimOperand t)).bind fun digits =>
    if isIntegerLiteral digits then integerValue? digits else none

end MacroShell
