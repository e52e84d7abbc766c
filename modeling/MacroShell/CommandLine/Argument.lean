import MacroShell.Number.Integer

/-!
# Arguments

An argument is an operand or an option. Options may be shortened as long as they stay unique, and
values may be attached to them.
-/

namespace MacroShell

inductive Flag
  | help
  | command
  | maxDepth
  | noColor
  | debug
  deriving DecidableEq

namespace Flag

def names : List (Text × Flag) := [
  ("-h".toList, help), ("--help".toList, help),
  ("-c".toList, command), ("--command".toList, command),
  ("--max-depth".toList, maxDepth), ("--no-color".toList, noColor), ("--debug".toList, debug)]

def takesValue : Flag → Bool
  | command | maxDepth => true
  | help | noColor | debug => false

end Flag

inductive Argument
  /-- A file, or the value of an option. -/
  | operand (text : Text)
  /-- The mark after which there are no options. -/
  | separator
  /-- An option without an attached value. -/
  | flag (f : Flag)
  /-- An option with an attached value. -/
  | attached (f : Flag) (value : Text)
  /-- The short help option with something attached to it, behind an equals sign or not. -/
  | helpCluster (equals : Bool) (rest : Text)
  /-- Looks like an option and is none. -/
  | unknown
  deriving DecidableEq

namespace Argument

/-- Whether an argument is a negative number and so no option; one line feed may follow. -/
def isNegativeNumber (t : Text) : Bool :=
  match t with
  | '-' :: rest =>
    let rest := Text.dropLineFeed rest
    match rest.dropWhile isDecimal with
    | [] => isDigits rest
    | '.' :: fraction => isDigits fraction
    | _ => false
  | _ => false

def cutEquals? (t : Text) : Option (Text × Text) :=
  match t.dropWhile (· != '=') with
  | [] => none
  | _ :: value => some (t.takeWhile (· != '='), value)

/-- A short option and what is attached to it. -/
def short (f : Flag) (equals : Bool) (rest : Text) : Argument :=
  if f = .help then helpCluster equals rest else attached f rest

/-- Reads an argument that begins with two dashes as a shortened option; it must not fit more than
one. -/
def readLong? (t : Text) : Option Argument :=
  let (start, value) := ((cutEquals? t).map fun (a, b) => (a, some b)).getD (t, none)
  match Flag.names.filter fun (name, _) => start.isPrefixOf name with
  | [] => some unknown
  | [(_, f)] => some (match value with
    | some value => attached f value
    | none => flag f)
  | _ => none

/-- Reads an argument that begins with one dash as a short option with something attached. -/
def readShort (t : Text) : Argument :=
  match Flag.names.lookup (t.take 2) with
  | some f => short f false (t.drop 2)
  | none => unknown

/-- Reads an argument by its form, unless it is a shortened option that fits more than one. -/
def read? (t : Text) : Option Argument :=
  if t.head? ≠ some '-' || t.length = 1 then some (operand t)
  else match Flag.names.lookup t with
    | some f => some (flag f)
    | none =>
      match (cutEquals? t).bind fun (name, value) =>
          (Flag.names.lookup name).map fun f => (name, f, value) with
      | some (name, f, value) =>
        some (if name.length = 2 then short f true value else attached f value)
      | none =>
        (if (t.drop 1).head? = some '-' then readLong? t else some (readShort t)).map fun a =>
          if a = unknown && (isNegativeNumber t || t.contains ' ') then operand t else a

/-- Reads arguments in order; after the separator there are only operands. -/
def readAll? : List Text → Option (List Argument)
  | [] => some []
  | t :: rest =>
    if t = ['-', '-'] then some (separator :: rest.map operand)
    else (read? t).bind fun a => (readAll? rest).map (a :: ·)

end Argument
end MacroShell
