import MacroShell.Number.Decimal
import MacroShell.Number.Dyadic

/-!
# How numbers are written

Integral numbers below `10 ^ 15` have no point. All others are rounded to 15 significant digits and
lose the zeros at the end; from `10 ^ 15` on and below `10 ^ -4` they are written with an exponent.
-/

namespace MacroShell

/-- How many significant digits a number is written with. -/
def precision : Nat := 15

/-- The greatest `k` for which `10 ^ k` is at most the positive quotient; quotients down to
`10 ^ -400` are covered. -/
def decimalExponent (num den : Nat) : Int :=
  ((naturalText (num * tenTo 400 / den)).length : Int) - 401

/-- The significant digits of a positive quotient and the exponent of the first of them. -/
def significantDigits (num den : Nat) : Text × Int :=
  let k := decimalExponent num den
  let shift := (precision : Int) - 1 - k
  let digits := roundQuotient (num * tenTo shift.toNat) (den * tenTo (-shift).toNat)
  if digits = tenTo precision then (integerText (digits / 10), k + 1) else (integerText digits, k)

def dropLastZeros (t : Text) : Text := (t.reverse.dropWhile (· == '0')).reverse

/-- Whole part and fraction, with a point only if there is a fraction. -/
def pointed (whole fraction : Text) : Text :=
  match dropLastZeros fraction with
  | [] => whole
  | fraction => whole ++ '.' :: fraction

/-- An exponent with its sign and at least two digits. -/
def exponentText (k : Int) : Text :=
  let digits := naturalText k.natAbs
  'e' :: (if k < 0 then '-' else '+') :: (if digits.length < 2 then '0' :: digits else digits)

/-- Significant digits with the exponent of the first of them. -/
def digitsText (digits : Text) (k : Int) : Text :=
  if k < -4 || (precision : Int) ≤ k then pointed (digits.take 1) (digits.drop 1) ++ exponentText k
  else if k < 0 then pointed ['0'] (List.replicate (k.natAbs - 1) '0' ++ digits)
  else pointed (digits.take (k.toNat + 1)) (digits.drop (k.toNat + 1))

def significantText (num den : Nat) : Text :=
  let found := significantDigits num den
  digitsText found.1 found.2

/-- A floating-point number as values of the language are written. -/
def floatText (x : Float) : Text :=
  match Dyadic.ofFloat? x with
  | none => if x.isNaN then "nan".toList else if x < 0 then "-inf".toList else "inf".toList
  | some d =>
    if d.isInteger && d.numerator < d.denominator * tenTo precision then
      integerText (signed d.negative (d.numerator / d.denominator))
    else (if d.negative then ['-'] else []) ++ significantText d.numerator d.denominator

inductive Number
  | integer (n : Int)
  | float (x : Float)

namespace Number

/-- Reads a number: as an integer if it is an integer literal within the digit limit, and in
floating point otherwise. -/
def read? (t : Text) : Option Number := (integer <$> readInteger? t) <|> (float <$> readDecimal? t)

/-- The number as it is written, unless it is an integer past the digit limit. -/
def text? : Number → Option Text
  | integer n => integerText? n
  | float x => some (floatText x)

def abs : Number → Number
  | integer n => integer n.natAbs
  | float x => float x.abs

def neg : Number → Number
  | integer n => integer (-n)
  | float x => float (-x)

end Number
end MacroShell
