import MacroShell.Calendar.Moment

/-!
# Layouts

A layout is a row of fields and separators that must account for a whole text. Apart from the
year, a field takes two digits where they make a value of the field, and one otherwise.
-/

namespace MacroShell

inductive LayoutPart
  | year
  | month
  | day
  | hour
  | minute
  | second
  /-- One or more characters of space. -/
  | space
  /-- The character itself. -/
  | mark (c : Char)
  deriving DecidableEq

/-- The fields that a layout reads, the start of 1900 where it has none. -/
structure LayoutFields where
  year : Nat
  month : Nat
  day : Nat
  hour : Nat
  minute : Nat
  second : Nat
  deriving DecidableEq

namespace LayoutFields

def start : LayoutFields := ⟨1900, 1, 1, 0, 0, 0⟩

def moment? (f : LayoutFields) : Option Moment := do
  let date ← Date.of? f.year f.month f.day
  let clock ← Clock.of? f.hour f.minute f.second 0
  some ⟨date, clock⟩

end LayoutFields

namespace LayoutPart

/-- Whether a character is one of the digits from `low` to `high`, in the common script. -/
def isAmong (low high : Char) (c : Char) : Bool := low ≤ c && c ≤ high

def frontValue (count : Nat) (t : Text) : Nat := digitsValue (t.take count)

/-- How many characters at the front make a value of the field: a tens digit, which must be of the
common script, and a ones digit, or a ones digit alone. -/
def width? : LayoutPart → Text → Option Nat
  | year, t => if (t.take 4).length = 4 && (t.take 4).all isDecimal then some 4 else none
  | month, t => match t with
    | '1' :: b :: _ => if isAmong '0' '2' b then some 2 else some 1
    | '0' :: b :: _ => if isAmong '1' '9' b then some 2 else none
    | a :: _ => if isAmong '1' '9' a then some 1 else none
    | [] => none
  | day, t => match t with
    | '3' :: b :: _ => if isAmong '0' '1' b then some 2 else some 1
    | '0' :: b :: _ => if isAmong '1' '9' b then some 2 else none
    | ' ' :: b :: _ => if isAmong '1' '9' b then some 2 else none
    | a :: b :: _ =>
      if isAmong '1' '2' a && isDecimal b then some 2
      else if isAmong '1' '9' a then some 1 else none
    | [a] => if isAmong '1' '9' a then some 1 else none
    | [] => none
  | hour, t => match t with
    | a :: b :: _ =>
      if (a == '2' && isAmong '0' '3' b) || (isAmong '0' '1' a && isDecimal b) then some 2
      else if isDecimal a then some 1 else none
    | [a] => if isDecimal a then some 1 else none
    | [] => none
  | minute, t => match t with
    | a :: b :: _ =>
      if isAmong '0' '5' a && isDecimal b then some 2 else if isDecimal a then some 1 else none
    | [a] => if isDecimal a then some 1 else none
    | [] => none
  | second, t => match t with
    | a :: b :: _ =>
      if (a == '6' && isAmong '0' '1' b) || (isAmong '0' '5' a && isDecimal b) then some 2
      else if isDecimal a then some 1 else none
    | [a] => if isDecimal a then some 1 else none
    | [] => none
  | space, t =>
    let blanks := (t.takeWhile isSpace).length
    if blanks = 0 then none else some blanks
  | mark m, t => if t.head? = some m then some 1 else none

/-- Records the value that a part has read. -/
def store : LayoutPart → Nat → LayoutFields → LayoutFields
  | year, n, f => { f with year := n }
  | month, n, f => { f with month := n }
  | day, n, f => { f with day := n }
  | hour, n, f => { f with hour := n }
  | minute, n, f => { f with minute := n }
  | second, n, f => { f with second := n }
  | space, _, f => f
  | mark _, _, f => f

end LayoutPart

abbrev Layout := List LayoutPart

namespace Layout

open LayoutPart

/-- Reads the fields of a text that the layout accounts for to its end. -/
def fields? : Layout → LayoutFields → Text → Option LayoutFields
  | [], f, [] => some f
  | [], _, _ :: _ => none
  | part :: rest, f, t =>
    (part.width? t).bind fun width =>
      fields? rest (part.store (frontValue width t) f) (t.drop width)

def read? (layout : Layout) (t : Text) : Option Moment :=
  (layout.fields? .start t).bind LayoutFields.moment?

/-- Year, month and day with a separator. -/
def yearFirst (separator : Char) : Layout := [year, mark separator, month, mark separator, day]

def monthFirst : Layout := [month, mark '/', day, mark '/', year]

def toMinute : Layout := [hour, mark ':', minute]

def toSecond : Layout := [hour, mark ':', minute, mark ':', second]

/-- The layouts of a date, with or without a time of day, in the order they are tried. -/
def dates : List Layout := [
  yearFirst '/' ++ space :: toSecond,
  yearFirst '/' ++ space :: toMinute,
  yearFirst '/',
  yearFirst '-' ++ space :: toSecond,
  yearFirst '-' ++ space :: toMinute,
  monthFirst ++ space :: toSecond,
  monthFirst ++ space :: toMinute,
  monthFirst]

/-- The layouts of a time of day alone, in the order they are tried. -/
def clocks : List Layout := [toSecond, toMinute]

end Layout
end MacroShell
