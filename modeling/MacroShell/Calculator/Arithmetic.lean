import MacroShell.Calculator.Token
import MacroShell.Number.Dyadic
import MacroShell.Number.Operand

/-!
# Operations of the calculator

The operations work on binary64 numbers. Division by a number next to zero is refused, and so are
powers that are no real number or have no finite value.
-/

namespace MacroShell

/-- How operands are read and operators applied. -/
structure Arithmetic (α : Type) where
  read? : Text → Option α
  apply : α → α → Operator → Except CalculationError α

/-- The distance from 1 to the next larger binary64 number. -/
def epsilon : Float := 2.220446049250313e-16

/-- Why a power of finite numbers has no value. -/
inductive PowerFault
  | undefined
  | overflow
  deriving DecidableEq

/-- The power of two numbers. For finite operands there is none where a negative base has a
fractional exponent, where zero has a negative one, or where the result is out of range. -/
def power (x y : Float) : Except PowerFault Float :=
  if x.isFinite && y.isFinite then
    if (x < 0 && !isIntegral y) || (x == 0 && y < 0) then .error .undefined
    else if (x.pow y).isInf then .error .overflow
    else .ok (x.pow y)
  else .ok (x.pow y)

namespace Operator

/-- Divides, unless the divisor is next to zero. -/
def divide (x y : Float) : Except CalculationError Float :=
  if y.abs < epsilon then .error .divisionByZero else .ok (x / y)

/-- Raises to a power, unless the base is next to zero and the exponent negative, or the base is
negative and the exponent not an integer. -/
def raise (x y : Float) : Except CalculationError Float :=
  if x.abs < epsilon && y < 0 then .error .zeroToNegativePower
  else if x < 0 && !isIntegral y then .error .negativeToFractionalPower
  else match power x y with
    | .ok z => .ok z
    | .error .overflow => .error .outOfRange
    | .error .undefined => .error .undefinedPower

def apply (x y : Float) : Operator → Except CalculationError Float
  | add => .ok (x + y)
  | sub => .ok (x - y)
  | mul => .ok (x * y)
  | div => divide x y
  | pow => raise x y

def ofText (t : Text) : Except CalculationError Operator :=
  match t with
  | [c] => match ofSymbol? c with
    | some op => .ok op
    | none => .error (.unsupportedOperator t)
  | _ => .error (.unsupportedOperator t)

end Operator

def Arithmetic.binary64 : Arithmetic Float := ⟨readOperand?, Operator.apply⟩

end MacroShell
