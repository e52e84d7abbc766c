import MacroShell.Language.Conversion

/-!
# Pipelines

A pipeline is a row of steps between arrows. Each step names a converter; the first one that
cannot be applied ends the run, and the value reached so far is the result.
-/

namespace MacroShell
namespace Pipeline

def steps (pipeline : Text) : List Text :=
  (pipeline.splitArrows.map Text.trim).filter (!·.isEmpty)

/-- The value a run ends with, and the step that stopped it, if one did. -/
structure Ending where
  value : Value
  stoppedAt : Option Text
  deriving DecidableEq

def Ending.completed (e : Ending) : Bool := e.stoppedAt.isNone

/-- The key of the converter that a step names for a value, and the name of the type it leaves
behind: what stands before the first point, or the whole step if it has none. For a date the step
`Time`, in just this spelling, takes out the time of day. -/
def resolve? (value : Value) (step : Text) : Option (Text × Text) :=
  if value.kind? = some .date && step = Kind.time.name then
    some (Converter.dateTime.key, Kind.time.name)
  else if (Converter.ofKey? step).isSome then some (step, canonicalName (step.takeWhile (· != '.')))
  else none

/-- What the converter under a key makes of a text, if there is one and it does not fail. -/
def convert? (now : Moment) (key text : Text) : Option Text :=
  match (Converter.ofKey? key).map fun c => c.apply now text with
  | some (Conversion.done text) => some text
  | _ => none

def step? (now : Moment) (value : Value) (step : Text) : Option Value := do
  let (key, typeName) ← resolve? value step
  let text ← convert? now key value.text
  some ⟨typeName, text⟩

/-- Applies steps one after another as long as they can be. -/
def runSteps (now : Moment) (value : Value) : List Text → Ending
  | [] => ⟨value, none⟩
  | step :: rest =>
    match step? now value step with
    | some next => runSteps now next rest
    | none => ⟨value, some step⟩

/-- The value under the converter whose key is its type name, if there is one and it applies. -/
def normalise (now : Moment) (value : Value) : Value :=
  match convert? now value.typeName value.text with
  | some text => { value with text := text }
  | none => value

/-- Runs a pipeline on a text with the name of its type; a blank pipeline normalises. -/
def run (now : Moment) (typeName text : Text) (pipeline : Option Text) : Ending :=
  let value : Value := ⟨canonicalName typeName, text⟩
  match pipeline.filter (!·.isBlank) with
  | none => ⟨normalise now value, none⟩
  | some pipeline => runSteps now value (steps pipeline)

def evaluate (now : Moment) (typeName text : Text) (pipeline : Option Text) : Text :=
  (run now typeName text pipeline).value.text

end Pipeline
end MacroShell
