import MacroShell.Text.Case

/-!
# Function definitions

A function is a named list of command lines. It is defined by `def NAME => COMMAND` or by
`def NAME => [ COMMAND ; … ]`, where line breaks separate commands too.
-/

namespace MacroShell

/-- A function: its name, its commands, and whether it was given as one command without
brackets. -/
structure Definition where
  name : Text
  commands : List Text
  singleLine : Bool
  deriving DecidableEq

inductive DefinitionError
  | noArrow
  | noName
  | noCommand
  | noClosingBracket
  /-- The lines ended inside a bracket block that this line opened. -/
  | unterminated (opening : Text)
  deriving DecidableEq

def DefinitionError.message : DefinitionError → Text
  | noArrow => "function definition must contain '=>'".toList
  | noName => "function name cannot be empty".toList
  | noCommand => "function must contain at least one command".toList
  | noClosingBracket => "multi-line body must end with ']'".toList
  | unterminated opening => "unterminated bracket block: ".toList ++ opening

namespace Definition

/-- Takes the keyword `def`, in any letter case, off the front of a text that goes on with
space. -/
def dropKeyword? : Text → Option Text
  | d :: e :: f :: c :: rest =>
    if d.toLower = 'd' && e.toLower = 'e' && f.toLower = 'f' && isSpace c then some (c :: rest)
    else none
  | _ => none

def isDefinition (line : Text) : Bool := (dropKeyword? line.trimLeft).isSome

/-- The commands of a bracketed body, without its brackets. -/
def splitCommands (inside : Text) : List Text :=
  ((inside.splitOn fun c => c = ';' || c = '\r' || c = '\n').map Text.trim).filter (!·.isEmpty)

def readBody (name body : Text) : Except DefinitionError Definition :=
  match body with
  | [] => .error .noCommand
  | '[' :: rest =>
    if rest.getLast? = some ']' then
      match splitCommands rest.dropLast with
      | [] => .error .noCommand
      | commands => .ok ⟨name, commands, false⟩
    else .error .noClosingBracket
  | command => .ok ⟨name, [command], true⟩

/-- Reads a definition with or without its keyword. -/
def read (source : Text) : Except DefinitionError Definition :=
  let text := ((dropKeyword? source.trim).map Text.trim).getD source.trim
  match text.cutArrow? with
  | none => .error .noArrow
  | some (name, body) =>
    if name.isBlank then .error .noName else readBody name.trim body.trim

/-- The definition as it can be entered again. A single command that is missing has no form. -/
def display? (d : Definition) : Option Text :=
  let heading := d.name ++ " => ".toList
  if d.singleLine then (heading ++ ·) <$> d.commands.head?
  else some (Text.joinLines
    ((heading ++ ['[']) :: (d.commands.map fun c => ' ' :: ' ' :: c) ++ [[']']]))

/-- What functions are told apart by: the name in small letters. -/
def key (d : Definition) : Text := d.name.lower

end Definition
end MacroShell
