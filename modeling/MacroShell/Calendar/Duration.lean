import MacroShell.Number.Integer
import MacroShell.Text.Case

/-!
# Durations

A duration literal is a row of groups, each a count and a unit: days, hours, minutes or seconds.
Reading adds up the groups wherever they stand; writing gives each unit at most once, the largest
first.
-/

namespace MacroShell
namespace Duration

def unitSize? : Char → Option Nat
  | 's' => some 1
  | 'm' => some 60
  | 'h' => some 3600
  | 'd' => some 86400
  | _ => none

def isUnit (c : Char) : Bool := c ∈ ['s', 'm', 'h', 'd', 'S', 'M', 'H', 'D']

structure Run where
  length : Nat
  value : Nat

def Run.none : Run := ⟨0, 0⟩

def Run.push (r : Run) (c : Char) : Run := ⟨r.length + 1, 10 * r.value + digitValue c⟩

/-- The sum of the groups of a text in small letters, when the run of digits right before it is
given; there is none if a count is past the digit limit. -/
def sumGroups? (run : Run) : Text → Option Nat
  | [] => some 0
  | c :: rest =>
    if isDecimal c then sumGroups? (run.push c) rest
    else match unitSize? c with
      | some size =>
        if run.length = 0 then sumGroups? .none rest
        else if digitLimit < run.length then none
        else (sumGroups? .none rest).map (run.value * size + ·)
      | none => sumGroups? .none rest

/-- The seconds that a text stands for: its value if it is an integer literal, and else the sum of
its groups. There is none if a number in it is past the digit limit. -/
def read? (t : Text) : Option Int :=
  let t := t.trim.lower
  if isIntegerLiteral t then integerValue? t else (sumGroups? .none t).map Int.ofNat

/-- One group of a literal, left out for a count of zero. -/
def group (count : Nat) (unit : Char) : Text :=
  if count = 0 then [] else naturalText count ++ [unit]

def text (n : Nat) : Text :=
  if n = 0 then ['0', 's']
  else group (n / 86400) 'd' ++ group (n % 86400 / 3600) 'h' ++ group (n % 3600 / 60) 'm' ++
    group (n % 60) 's'

/-- The literal for a number of seconds without its sign, unless the days are past the digit
limit. -/
def text? (n : Int) : Option Text :=
  if withinLimit (n.natAbs / 86400) then some (text n.natAbs) else none

def ofClock? (hours minutes seconds : Int) : Option Text :=
  text? (hours * 3600 + minutes * 60 + seconds)

/-- Whether a text is nothing but groups, when it is known whether a digit stands before it. -/
def isGroups : Bool → Text → Bool
  | digits, [] => !digits
  | digits, c :: rest =>
    if isDecimal c then isGroups true rest else digits && isUnit c && isGroups false rest

def isUnsigned (t : Text) : Bool := (!t.isEmpty && isGroups false t) || isDigits t

/-- Whether a text has the shape by which durations are told from other values; one line feed may
follow. -/
def isShape (t : Text) : Bool := isUnsigned t.dropLineFeed

/-- Whether a text, apart from space around it, is a row of groups or an integer literal. -/
def isLiteral (t : Text) : Bool :=
  !t.isBlank && (isIntegerLiteral t.trim || isUnsigned t.trim)

end Duration
end MacroShell
