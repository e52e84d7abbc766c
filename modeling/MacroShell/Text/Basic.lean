import MacroShell.Unicode.Space

/-!
# Text

A text is a list of characters. Trimming, splitting and joining are defined by recursion on it;
space is meant in the sense of `isSpace` throughout.
-/

namespace MacroShell

abbrev Text := List Char

namespace Text

def trimLeft (t : Text) : Text := t.dropWhile isSpace

def trimRight (t : Text) : Text := (t.reverse.dropWhile isSpace).reverse

def trim (t : Text) : Text := trimRight (trimLeft t)

def isBlank (t : Text) : Bool := t.all isSpace

def consHead (c : Char) : List Text → List Text
  | [] => [[c]]
  | piece :: rest => (c :: piece) :: rest

/-- The pieces between separating characters, empty ones included. -/
def splitOn (separates : Char → Bool) : Text → List Text
  | [] => [[]]
  | c :: rest =>
    if separates c then [] :: splitOn separates rest else consHead c (splitOn separates rest)

/-- The runs of characters that are not space. -/
def words (t : Text) : List Text := (splitOn isSpace t).filter (!·.isEmpty)

/-- The pieces between arrows `=>`, empty ones included. -/
def splitArrows : Text → List Text
  | [] => [[]]
  | '=' :: '>' :: rest => [] :: splitArrows rest
  | c :: rest => consHead c (splitArrows rest)

/-- What stands before and after the first arrow `=>`. -/
def cutArrow? : Text → Option (Text × Text)
  | [] => none
  | '=' :: '>' :: rest => some ([], rest)
  | c :: rest => (cutArrow? rest).map fun (before, after) => (c :: before, after)

def dropLineFeed (t : Text) : Text := if t.getLast? = some '\n' then t.dropLast else t

def join (separator : Text) (pieces : List Text) : Text := separator.intercalate pieces

def joinLines (lines : List Text) : Text := join ['\n'] lines

/-- The text followed by as many spaces as it falls short of a width. -/
def padRight (width : Nat) (t : Text) : Text := t ++ List.replicate (width - t.length) ' '

end Text
end MacroShell
