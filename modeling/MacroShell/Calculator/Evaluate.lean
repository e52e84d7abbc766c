import MacroShell.Calculator.Arithmetic
import MacroShell.Calculator.Postfix

/-!
# Evaluating expressions

Postfix order is evaluated on a stack of values. The first token that cannot be carried out
decides the error.
-/

namespace MacroShell
namespace Arithmetic

variable {α : Type} (arithmetic : Arithmetic α)

/-- Carries out one token on a stack of values, the last one on top. -/
def step (stack : List α) : Token → Except CalculationError (List α)
  | .operator op =>
    match stack with
    | right :: left :: below => (· :: below) <$> arithmetic.apply left right op
    | _ => .error (.missingOperand op)
  | token =>
    match arithmetic.read? token.text with
    | some value => .ok (value :: stack)
    | none => .error (.invalidNumber token.text)

def run (stack : List α) : List Token → Except CalculationError (List α)
  | [] => .ok stack
  | token :: rest => (arithmetic.step stack token).bind fun stack => run stack rest

/-- The value of tokens in postfix order, if it is the only one that is left. -/
def evaluate (tokens : List Token) : Except CalculationError α :=
  (arithmetic.run [] tokens).bind fun
    | [value] => .ok value
    | _ => .error .mismatch

def calculate (expression : Text) : Except CalculationError α := do
  let tokens ← Token.ofExpression expression
  let tokens ← Token.toPostfix tokens
  arithmetic.evaluate tokens

end Arithmetic
end MacroShell
