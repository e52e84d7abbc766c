/-!
# Sets of code points

A property of characters is a list of closed ranges of code points in increasing order.
-/

namespace MacroShell

/-- Closed ranges of code points, in increasing order and apart from each other. -/
abbrev CodeRanges := List (Nat × Nat)

namespace CodeRanges

/-- Whether some range holds the code point; the search stops at the first range above it. -/
def contains : CodeRanges → Nat → Bool
  | [], _ => false
  | (first, last) :: rest, n => if n < first then false else n ≤ last || contains rest n

/-- How far the code point lies from the start of the range that holds it. -/
def offset? : CodeRanges → Nat → Option Nat
  | [], _ => none
  | (first, last) :: rest, n =>
    if n < first then none else if n ≤ last then some (n - first) else offset? rest n

end CodeRanges
end MacroShell
