import MacroShell.Language.Pipeline
import MacroShell.Unicode.Word

/-!
# Generators

A generator call makes a fresh value from a name and arguments in parentheses. A pipeline may
follow; the type of the value is then detected.
-/

namespace MacroShell

inductive Generator
  | gettime
  | getdate
  | ifeo
  deriving DecidableEq

namespace Generator

def ofName? (name : Text) : Option Generator :=
  if name.lower = "gettime".toList then some gettime
  else if name.lower = "getdate".toList then some getdate
  else if name.lower = "ifeo".toList then some ifeo
  else none

/-- What is answered for a call that no generator takes. -/
def unknown (name : Text) : Text :=
  "[Error: Unknown function '".toList ++ name ++ "']".toList

/-- The registry key under which debuggers are attached to program images. -/
def imageOptions : Text :=
  "HKLM\\SOFTWARE\\Microsoft\\Windows NT\\CurrentVersion\\Image File Execution Options".toList

/-- The time of day as hours, minutes and seconds. -/
def timeText (now : Moment) : Text :=
  naturalText now.clock.hour ++ 'h' :: naturalText now.clock.minute ++
    'm' :: naturalText now.clock.second ++ ['s']

/-- The date and the time of day, no field padded. -/
def dateText (now : Moment) : Text :=
  naturalText now.date.year ++ '/' :: naturalText now.date.month ++
    '/' :: naturalText now.date.day ++ ' ' :: naturalText now.clock.hour ++
    ':' :: naturalText now.clock.minute ++ ':' :: naturalText now.clock.second

/-- Whether the only argument is `now`, in any letter case. -/
def isNow : List Text → Bool
  | [argument] => argument.lower = "now".toList
  | _ => false

/-- The value of a generator on arguments that it takes. -/
def value? (now : Moment) : Generator → List Text → Option Text
  | gettime, arguments => if isNow arguments then some (timeText now) else none
  | getdate, arguments => if isNow arguments then some (dateText now) else none
  | ifeo, [image, debugger] =>
    some ("reg add \"".toList ++ imageOptions ++ '\\' :: image ++
      "\" /v Debugger /t REG_SZ /d \"".toList ++ debugger ++ "\" /f".toList)
  | ifeo, _ => none

/-- The value of a call by name; a call that no generator takes is answered with an error text. -/
def generate (now : Moment) (name : Text) (arguments : List Text) : Text :=
  ((ofName? name).bind (·.value? now arguments)).getD (unknown name)

/-- A call at the front of a text: a name and what stands between parentheses. -/
def callAt? (t : Text) : Option (Text × Text) :=
  match t.takeWhile isWord, t.dropWhile isWord with
  | [], _ => none
  | name, '(' :: rest => if rest.contains ')' then some (name, rest.takeWhile (· != ')')) else none
  | _, _ => none

def findCall? : Text → Option (Text × Text)
  | [] => none
  | c :: rest => callAt? (c :: rest) <|> findCall? rest

def arguments (inside : Text) : List Text := (inside.splitOn (· == ',')).map Text.trim

/-- Replaces a text by the value of the first call in it, sent through a pipeline. A text without
a call stays as it is. -/
def dispatch (now : Moment) (call : Text) (pipeline : Option Text) : Text :=
  match findCall? call with
  | none => call
  | some (name, inside) =>
    let value := generate now name (arguments inside)
    match pipeline.filter (!·.isBlank) with
    | none => value
    | some pipeline => Pipeline.evaluate now (detectKind now value).name value (some pipeline)

end Generator
end MacroShell
