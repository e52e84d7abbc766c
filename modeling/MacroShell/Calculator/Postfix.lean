import MacroShell.Calculator.Token

/-!
# Postfix order

In postfix order an operator follows its operands, so that parentheses are not needed. Operators
and open parentheses wait on a stack until what follows them is known.
-/

namespace MacroShell

/-- What waits on the stack. -/
inductive Waiting
  | operator (op : Operator)
  | opening
  deriving DecidableEq

namespace Waiting

/-- The operators on top that go before the given one, as tokens, and the stack below them. -/
def popBefore (op : Operator) : List Waiting → List Token × List Waiting
  | .operator top :: stack =>
    if top.goesBefore op then
      let (popped, below) := popBefore op stack
      (.operator top :: popped, below)
    else ([], .operator top :: stack)
  | stack => ([], stack)

/-- The operators above the topmost open parenthesis, as tokens, and the stack below it, if there
is such a parenthesis. -/
def popOpening? : List Waiting → Option (List Token × List Waiting)
  | [] => none
  | .opening :: stack => some ([], stack)
  | .operator top :: stack =>
    (popOpening? stack).map fun (popped, below) => (.operator top :: popped, below)

/-- All operators as tokens, unless a parenthesis is still open. -/
def popAll? : List Waiting → Option (List Token)
  | [] => some []
  | .opening :: _ => none
  | .operator top :: stack => (popAll? stack).map (.operator top :: ·)

end Waiting

namespace Token

/-- The postfix order of tokens that follow the stack given, unless parentheses are out of
balance. -/
def reorder? (stack : List Waiting) : List Token → Option (List Token)
  | [] => Waiting.popAll? stack
  | .operator op :: rest =>
    let (popped, below) := Waiting.popBefore op stack
    (reorder? (.operator op :: below) rest).map (popped ++ ·)
  | .opening :: rest => reorder? (.opening :: stack) rest
  | .closing :: rest =>
    (Waiting.popOpening? stack).bind fun (popped, below) =>
      (reorder? below rest).map (popped ++ ·)
  | .operand text :: rest => (reorder? stack rest).map (.operand text :: ·)

def toPostfix (tokens : List Token) : Except CalculationError (List Token) :=
  match reorder? [] tokens with
  | some tokens => .ok tokens
  | none => .error .unbalancedParentheses

end Token
end MacroShell
