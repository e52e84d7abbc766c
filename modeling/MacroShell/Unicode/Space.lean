import MacroShell.Unicode.Ranges

/-!
# Space

White space, with the four information separators counted as space.
-/

namespace MacroShell

/-- The code points of white space and of the information separators. -/
def spaceRanges : CodeRanges :=
  [(0x9, 0xD), (0x1C, 0x20), (0x85, 0x85), (0xA0, 0xA0), (0x1680, 0x1680), (0x2000, 0x200A),
   (0x2028, 0x2029), (0x202F, 0x202F), (0x205F, 0x205F), (0x3000, 0x3000)]

def isSpace (c : Char) : Bool := spaceRanges.contains c.toNat

end MacroShell
