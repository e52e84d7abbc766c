import MacroShell.Text.Basic

/-!
# Patterns

A pattern matches at the front of a text. Where it can match in several ways, these are tried in
a fixed order, and the first one counts behind which the rest of the pattern matches as well.
Parts of a match are kept under the numbers of their groups.
-/

namespace MacroShell

inductive Pattern
  | nothing
  /-- One character of a class. -/
  | one (accepts : Char → Bool)
  /-- Any number of characters of a class, rather more than fewer. -/
  | most (accepts : Char → Bool)
  /-- Any number of characters of a class, rather fewer than more. -/
  | fewest (accepts : Char → Bool)
  | seq (first second : Pattern)
  /-- Either of two patterns, rather the first. -/
  | either (first second : Pattern)
  /-- A pattern whose match is kept under a number. -/
  | group (number : Nat) (inner : Pattern)

abbrev Captures := List (Nat × Text)

namespace Pattern

def mark (c : Char) : Pattern := one (· == c)

/-- At least one character of a class, rather more than fewer. -/
def mostOf (accepts : Char → Bool) : Pattern := seq (one accepts) (most accepts)

/-- At least one character of a class, rather fewer than more. -/
def fewestOf (accepts : Char → Bool) : Pattern := seq (one accepts) (fewest accepts)

/-- A pattern that may be left out, rather not. -/
def optional (p : Pattern) : Pattern := either p nothing

def row : List Pattern → Pattern
  | [] => nothing
  | p :: rest => seq p (row rest)

/-- Passes over characters of a class, as many as there are, and gives them back one by one as
long as it does not go on behind them. -/
def runMost {α : Type} (accepts : Char → Bool) (next : Text → Option α) : Text → Option α
  | [] => next []
  | c :: rest =>
    if accepts c then runMost accepts next rest <|> next (c :: rest) else next (c :: rest)

/-- Passes over characters of a class one by one until it goes on behind them. -/
def runFewest {α : Type} (accepts : Char → Bool) (next : Text → Option α) : Text → Option α
  | [] => next []
  | c :: rest =>
    next (c :: rest) <|> if accepts c then runFewest accepts next rest else none

/-- Matches a pattern at the front of a text and goes on behind the match; answers what the groups
have matched and what is left of the text. -/
def run : Pattern → (Text → Option (Captures × Text)) → Text → Option (Captures × Text)
  | nothing, next, t => next t
  | one _, _, [] => none
  | one accepts, next, c :: rest => if accepts c then next rest else none
  | most accepts, next, t => runMost accepts next t
  | fewest accepts, next, t => runFewest accepts next t
  | seq p q, next, t => p.run (q.run next) t
  | either p q, next, t => p.run next t <|> q.run next t
  | group number p, next, t => p.run (fun rest => (next rest).map fun (found, left) =>
      ((number, t.take (t.length - rest.length)) :: found, left)) t

/-- The first match of a pattern at the front of a text: what the groups have matched, and what is
left of the text. -/
def matchFront? (p : Pattern) (t : Text) : Option (Captures × Text) :=
  p.run (fun rest => some ([], rest)) t

end Pattern
end MacroShell
