import MacroShell.Text.Basic
import MacroShell.Unicode.Digit

/-!
# Integers

Decimal integers of any sign are read and written only up to a limit on their digits.
-/

namespace MacroShell

def twoTo (k : Nat) : Nat := Nat.pow 2 k

def tenTo (k : Nat) : Nat := Nat.pow 10 k

/-- The most digits an integer is read or written with. -/
def digitLimit : Nat := 4300

def naturalText (n : Nat) : Text := Nat.toDigits 10 n

def integerText : Int → Text
  | .ofNat n => naturalText n
  | .negSucc n => '-' :: naturalText (n + 1)

def withinLimit (n : Nat) : Bool := (naturalText n).length ≤ digitLimit

/-- The decimal form of an integer, if it stays within the digit limit. -/
def integerText? (n : Int) : Option Text :=
  if withinLimit n.natAbs then some (integerText n) else none

def digitsValue (digits : Text) : Nat := digits.foldl (fun n c => 10 * n + digitValue c) 0

/-- The number that a run of decimal digits stands for, if it stays within the digit limit;
leading zeros count. -/
def digitsValue? (digits : Text) : Option Nat :=
  if digits.length ≤ digitLimit then some (digitsValue digits) else none

/-- Takes a sign off the front; true is minus. -/
def takeSign : Text → Bool × Text
  | '-' :: rest => (true, rest)
  | '+' :: rest => (false, rest)
  | t => (false, t)

/-- Gives a magnitude its sign; true is minus. -/
def signed (negative : Bool) (n : Nat) : Int := if negative then -(n : Int) else n

def isDigits (t : Text) : Bool := !t.isEmpty && t.all isDecimal

def isIntegerLiteral (t : Text) : Bool := isDigits (takeSign t).2

/-- The value of an integer literal, if it stays within the digit limit. -/
def integerValue? (t : Text) : Option Int :=
  (digitsValue? (takeSign t).2).map (signed (takeSign t).1)

/-- Reads an integer literal with space around it. -/
def readInteger? (t : Text) : Option Int :=
  if isIntegerLiteral t.trim then integerValue? t.trim else none

/-- The integer nearest a quotient; a half goes to the even neighbour. -/
def roundQuotient (num : Int) (den : Nat) : Int :=
  let quotient := num / den
  let twice := num % den * 2
  if den < twice || (twice == den && quotient % 2 == 1) then quotient + 1 else quotient

end MacroShell
