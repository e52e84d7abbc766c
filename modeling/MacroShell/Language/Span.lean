import MacroShell.Language.Generator
import MacroShell.Text.Pattern

/-!
# Macro spans

A span `$[tag : seed => step => …]` inside a line stands for the value of its seed after the
steps. The tag names the type of the seed; without a tag, or with `?`, the type is detected, and
with `@` the seed is a generator call.
-/

namespace MacroShell

/-- What a span says: its tag, its seed, and the steps if it has any. -/
structure Macro where
  tag : Text
  seed : Text
  pipeline : Option Text
  deriving DecidableEq

namespace Macro

def isGenerator (m : Macro) : Bool := m.tag == ['@']

/-- Whether the type of the seed is to be detected. -/
def isImplicit (m : Macro) : Bool := m.tag.isEmpty || m.tag == ['?']

/-- How tags are written: an optional `?` and a name that may be empty, or `@`. -/
def tagPattern : Pattern := .either (.row [.optional (.mark '?'), .most isWord]) (.mark '@')

/-- How steps are written: behind an arrow. Group 3 is the steps. -/
def stepsPattern : Pattern := .row [
  .most isSpace, .mark '=', .mark '>', .most isSpace, .group 3 (.mostOf (· != ']'))]

/-- What follows the colon: a seed, and steps if there are any. Group 2 is the seed. -/
def bodyPattern : Pattern := .row [
  .most isSpace, .group 2 (.fewestOf fun c => c != '=' && c != ']'), .optional stepsPattern,
  .most isSpace]

/-- How spans are written. Group 1 is the tag. -/
def pattern : Pattern := .row [
  .mark '$', .mark '[', .most isSpace, .group 1 tagPattern, .most isSpace, .mark ':',
  bodyPattern, .mark ']']

/-- What a span says, given the groups of its pattern. -/
def ofCaptures (found : Captures) : Macro where
  tag := (found.lookup 1).getD []
  seed := Text.trim ((found.lookup 2).getD [])
  pipeline := (found.lookup 3).map Text.trim

/-- Reads a span at the front of a text and gives its length. -/
def readFront? (t : Text) : Option (Macro × Nat) :=
  (pattern.matchFront? t).map fun (found, rest) => (ofCaptures found, t.length - rest.length)

def evaluate (now : Moment) (m : Macro) : Text :=
  if m.isGenerator then Generator.dispatch now m.seed m.pipeline
  else
    let typeName := if m.isImplicit then (detectKind now m.seed).name else m.tag
    Pipeline.evaluate now typeName m.seed m.pipeline

end Macro

end MacroShell
