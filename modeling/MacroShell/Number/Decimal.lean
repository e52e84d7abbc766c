import MacroShell.Number.Integer

/-!
# Decimal literals

A decimal literal has a sign, digits around at most one point, and an exponent. Its value is the
binary64 number nearest to it.
-/

namespace MacroShell

/-- The number `coefficient · 10 ^ exponent` with a sign; true is minus. -/
structure Decimal where
  negative : Bool
  coefficient : Nat
  exponent : Int
  deriving DecidableEq

namespace Decimal

/-- Reads the part of a literal after its digits: nothing, or a mark and a signed integer. -/
def readExponent? : Text → Option Int
  | [] => some 0
  | mark :: rest =>
    let (negative, digits) := takeSign rest
    if (mark = 'e' || mark = 'E') && isDigits digits then
      some (signed negative (digitsValue digits))
    else none

def read? (t : Text) : Option Decimal :=
  let (negative, rest) := takeSign t
  let whole := rest.takeWhile isDecimal
  let (fraction, rest) := match rest.dropWhile isDecimal with
    | '.' :: rest => (rest.takeWhile isDecimal, rest.dropWhile isDecimal)
    | rest => ([], rest)
  if whole.isEmpty && fraction.isEmpty then none
  else (readExponent? rest).map fun exponent =>
    ⟨negative, digitsValue (whole ++ fraction), exponent - fraction.length⟩

/-- The nearest binary64 number; past the largest it is infinite. -/
def toFloat (d : Decimal) : Float :=
  let magnitude := Float.ofScientific d.coefficient (d.exponent < 0) d.exponent.natAbs
  if d.negative then -magnitude else magnitude

end Decimal

def readDecimal? (t : Text) : Option Float := (Decimal.read? t.trim).map Decimal.toFloat

end MacroShell
