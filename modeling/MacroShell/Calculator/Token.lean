import MacroShell.Text.Quoted
import MacroShell.Unicode.Digit

/-!
# Tokens of arithmetic

An expression is cut into operators, parentheses and numerals. A numeral is a run of digits with
at most one point, as long as it can be.
-/

namespace MacroShell

inductive Operator
  | add
  | sub
  | mul
  | div
  | pow
  deriving DecidableEq

namespace Operator

def symbol : Operator → Char
  | add => '+'
  | sub => '-'
  | mul => '*'
  | div => '/'
  | pow => '^'

def ofSymbol? : Char → Option Operator
  | '+' => some add
  | '-' => some sub
  | '*' => some mul
  | '/' => some div
  | '^' => some pow
  | _ => none

def precedence : Operator → Nat
  | add | sub => 1
  | mul | div => 2
  | pow => 3

/-- Whether an operator that waits on the left goes before one on its right: it binds tighter, or
as tightly and both associate to the left. -/
def goesBefore (left right : Operator) : Bool :=
  right.precedence < left.precedence || (right.precedence == left.precedence && right != pow)

end Operator

/-- Why an expression has no value. -/
inductive CalculationError
  | emptyExpression
  | invalidCharacter (c : Char)
  | unbalancedParentheses
  | missingOperand (operator : Operator)
  | invalidNumber (operand : Text)
  | unsupportedOperator (operator : Text)
  | mismatch
  | divisionByZero
  | zeroToNegativePower
  | negativeToFractionalPower
  | outOfRange
  /-- A power of two finite numbers that is no real number, past the tests for such operands. -/
  | undefinedPower
  deriving DecidableEq

def CalculationError.message : CalculationError → Text
  | emptyExpression => "expression is empty".toList
  | invalidCharacter c => "invalid character: ".toList ++ Text.quoted [c]
  | unbalancedParentheses => "unbalanced parentheses".toList
  | missingOperand operator =>
    "operator ".toList ++ Text.quoted [operator.symbol] ++ " is missing an operand".toList
  | invalidNumber operand => "invalid number: ".toList ++ operand.quoted
  | unsupportedOperator operator => "unsupported operator: ".toList ++ operator.quoted
  | mismatch => "operands and operators do not match".toList
  | divisionByZero => "division by zero".toList
  | zeroToNegativePower => "zero cannot be raised to a negative power".toList
  | negativeToFractionalPower => "negative base with a non-integer exponent".toList
  | outOfRange => "result out of range".toList
  | undefinedPower => "math domain error".toList

/-- A part of an expression. Any text that is no operator and no parenthesis is an operand. -/
inductive Token
  | operator (op : Operator)
  | opening
  | closing
  | operand (text : Text)
  deriving DecidableEq

namespace Token

def text : Token → Text
  | operator op => [op.symbol]
  | opening => ['(']
  | closing => [')']
  | operand text => text

def ofSymbol? : Char → Option Token
  | '(' => some opening
  | ')' => some closing
  | c => (Operator.ofSymbol? c).map operator

def ofText : Text → Token
  | [c] => (ofSymbol? c).getD (operand [c])
  | t => operand t

/-- Puts a numeral, unless it is empty, in front of the tokens after it. -/
def flush (numeral : Text) (tokens : List Token) : List Token :=
  if numeral.isEmpty then tokens else operand numeral :: tokens

/-- Cuts a text without space into the rest of the numeral right before it and the tokens after
that; it is given whether the numeral has a point already. -/
def scan (pointed : Bool) : Text → Except CalculationError (Text × List Token)
  | [] => .ok ([], [])
  | c :: rest =>
    if isDigit c then
      (scan pointed rest).map fun (numeral, tokens) => (c :: numeral, tokens)
    else if c = '.' then
      (scan true rest).map fun (numeral, tokens) =>
        if pointed then ([], operand (c :: numeral) :: tokens) else (c :: numeral, tokens)
    else match ofSymbol? c with
      | some token =>
        (scan false rest).map fun (numeral, tokens) => ([], token :: flush numeral tokens)
      | none => .error (.invalidCharacter c)

/-- The tokens of an expression; space is passed over wherever it stands. -/
def ofExpression (expression : Text) : Except CalculationError (List Token) :=
  if expression.isBlank then .error .emptyExpression
  else (scan false (expression.filter (!isSpace ·))).map fun (numeral, tokens) =>
    flush numeral tokens

end Token
end MacroShell
