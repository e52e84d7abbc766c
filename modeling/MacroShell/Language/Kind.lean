import MacroShell.Text.Case

/-!
# Kinds of values

The fixed vocabulary of value types. A value is a text with the name of a type, which may lie
outside the vocabulary.
-/

namespace MacroShell

inductive Kind
  | number
  | time
  | string
  | boolean
  | date
  deriving DecidableEq

namespace Kind

/-- All types, in the order of the vocabulary. -/
def all : List Kind := [number, time, string, boolean, date]

def name : Kind → Text
  | number => "Number".toList
  | time => "Time".toList
  | string => "String".toList
  | boolean => "Boolean".toList
  | date => "Date".toList

/-- The type with a name, in any letter case and with space around it. -/
def ofName? (t : Text) : Option Kind := all.find? fun k => k.name.lower = t.trim.lower

end Kind

/-- The spelling of a type's name in the vocabulary; any other text is its own. -/
def canonicalName (t : Text) : Text :=
  match Kind.ofName? t with
  | some k => k.name
  | none => t

/-- A text with the name of its type. -/
structure Value where
  typeName : Text
  text : Text
  deriving DecidableEq

def Value.kind? (v : Value) : Option Kind := Kind.ofName? v.typeName

end MacroShell
