import MacroShell.Number.Integer

/-!
# Exact values of floating-point numbers

Every finite binary64 number is an integer times a power of two. Rounding to an integer and
choosing decimal digits work on that exact value.
-/

namespace MacroShell

/-- The number `significand · 2 ^ exponent` with a sign; true is minus, and zero has one too. -/
structure Dyadic where
  negative : Bool
  significand : Nat
  exponent : Int
  deriving DecidableEq

namespace Dyadic

/-- The exact value of a number, unless it is infinite or not a number. -/
def ofFloat? (x : Float) : Option Dyadic :=
  let bits := x.toBits.toNat
  let negative := bits / twoTo 63 == 1
  let field : Nat := bits / twoTo 52 % twoTo 11
  let fraction := bits % twoTo 52
  if field = twoTo 11 - 1 then none
  else if field = 0 then some ⟨negative, fraction, -1074⟩
  else some ⟨negative, twoTo 52 + fraction, Int.ofNat field - 1075⟩

/-- The magnitude is `numerator / denominator`. -/
def numerator (d : Dyadic) : Nat := d.significand * twoTo d.exponent.toNat

/-- The magnitude is `numerator / denominator`. -/
def denominator (d : Dyadic) : Nat := twoTo (-d.exponent).toNat

def isInteger (d : Dyadic) : Bool := d.numerator % d.denominator == 0

/-- The nearest integer; a half goes to the even neighbour. -/
def round (d : Dyadic) : Int :=
  roundQuotient (signed d.negative d.numerator) d.denominator

end Dyadic

def isIntegral (x : Float) : Bool := (Dyadic.ofFloat? x).any Dyadic.isInteger

end MacroShell
