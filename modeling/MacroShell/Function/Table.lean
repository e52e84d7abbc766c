import MacroShell.Function.Definition

/-!
# The function table

Functions in the order of their first definition, at most one for each name; letter case does not
tell names apart.
-/

namespace MacroShell

structure FunctionTable where
  definitions : List Definition
  deriving DecidableEq

namespace FunctionTable

def empty : FunctionTable := ⟨[]⟩

/-- Puts a definition in the place of the one with the same key, or at the end. -/
def insert (d : Definition) : List Definition → List Definition
  | [] => [d]
  | e :: rest => if e.key = d.key then d :: rest else e :: insert d rest

def define (t : FunctionTable) (d : Definition) : FunctionTable := ⟨insert d t.definitions⟩

def defineFrom (t : FunctionTable) (source : Text) :
    Except DefinitionError (Definition × FunctionTable) :=
  (Definition.read source).map fun d => (d, t.define d)

/-- The definition with a name, in any letter case and with space around it. -/
def get? (t : FunctionTable) (name : Text) : Option Definition :=
  if name.isEmpty then none else t.definitions.find? fun d => d.key = name.trim.lower

def contains (t : FunctionTable) (name : Text) : Bool := (t.get? name).isSome

/-- Removes the function with a name, and tells whether there was one. -/
def delete (t : FunctionTable) (name : Text) : Bool × FunctionTable :=
  (t.definitions.any fun d => d.key = name.trim.lower,
    ⟨t.definitions.filter fun d => d.key ≠ name.trim.lower⟩)

def size (t : FunctionTable) : Nat := t.definitions.length

/-- The names of the functions, as they were last defined. -/
def names (t : FunctionTable) : List Text := t.definitions.map Definition.name

/-- All functions as they can be entered again, below a heading. -/
def listing? (t : FunctionTable) : Option Text :=
  if t.definitions.isEmpty then some "No functions defined".toList
  else (t.definitions.mapM Definition.display?).map fun entries =>
    Text.joinLines ("Defined functions:".toList :: List.replicate 60 '═' :: entries)

end FunctionTable
end MacroShell
