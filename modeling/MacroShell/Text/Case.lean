import MacroShell.Text.Basic
import MacroShell.Unicode.CaseMap

/-!
# Small and capital letters

The full case mappings of a text. One letter depends on its surroundings: a capital sigma at the
end of a word becomes a final sigma.
-/

namespace MacroShell

/-- The characters a case mapping gives for one character. -/
def mapCase (runs : List CaseRun) (expansions : List (Nat × List Nat)) (c : Char) : Text :=
  match expansions.lookup c.toNat with
  | some codes => codes.map Char.ofNat
  | none => [((CaseRun.image? runs c.toNat).map Char.ofNat).getD c]

/-- The small form of a character on its own. -/
def smallForm (c : Char) : Text := mapCase smallRuns smallExpansions c

def capitalForm (c : Char) : Text := mapCase capitalRuns capitalExpansions c

/-- Whether the first character that counts for word ends has a case. -/
def startsCased (t : Text) : Bool :=
  match t.dropWhile (caseIgnorableRanges.contains ·.toNat) with
  | [] => false
  | c :: _ => casedRanges.contains c.toNat

/-- The small form of a capital sigma between the reversed text before it and the text after it:
final when a cased letter precedes and none follows. -/
def smallSigma (before after : Text) : Char :=
  if startsCased before && !startsCased after then 'ς' else 'σ'

namespace Text

/-- The small forms of a text whose preceding characters are given in reverse. -/
def lowerAfter (before : Text) : Text → Text
  | [] => []
  | c :: after =>
    (if c = 'Σ' then [smallSigma before after] else smallForm c) ++ lowerAfter (c :: before) after

def lower (t : Text) : Text := lowerAfter [] t

def upper (t : Text) : Text := t.flatMap capitalForm

end Text
end MacroShell
