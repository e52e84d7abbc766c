import MacroShell.CommandLine.Argument
import MacroShell.Number.Operand
import MacroShell.Session.World

/-!
# Invocations

The arguments of a run select scripts, a single command, or an interactive session. The first
argument that is out of order decides what comes of them.
-/

namespace MacroShell

structure Options where
  files : List Text := []
  command : Option Text := none
  maxDepth : Int := 64
  noColor : Bool := false
  debug : Bool := false
  deriving DecidableEq

inductive Task
  | scripts (files : List Text)
  | command (line : Text)
  | console
  deriving DecidableEq

namespace Options

def settings (options : Options) : Settings :=
  { colors := !options.noColor
    depthLimit := if options.maxDepth = 0 then none else some options.maxDepth }

/-- Files go before a command; where there is neither, the session is interactive. -/
def task (options : Options) : Task :=
  if !options.files.isEmpty then .scripts options.files
  else match options.command.filter (!·.isEmpty) with
    | some line => .command line
    | none => .console

/-- The options with the value of one set, unless the value is malformed. -/
def setValue? (options : Options) (value : Text) : Flag → Option Options
  | .command => some { options with command := some value }
  | .maxDepth => (readIntegerOperand? value).map fun n => { options with maxDepth := n }
  | _ => none

def turnOn (options : Options) : Flag → Options
  | .noColor => { options with noColor := true }
  | .debug => { options with debug := true }
  | _ => options

def addFile (options : Options) (path : Text) : Options :=
  { options with files := options.files ++ [path] }

end Options

inductive Invocation
  | run (options : Options)
  /-- Help was asked for. -/
  | help
  /-- The arguments cannot be understood. -/
  | misuse
  deriving DecidableEq

namespace Invocation

/-- The exit status of an invocation that runs nothing. -/
def exitCode? : Invocation → Option Int
  | run _ => none
  | help => some 0
  | misuse => some 2

/-- Where the files stand among the arguments: they are all in one place. -/
inductive Files
  | awaited
  | reading
  | complete
  deriving DecidableEq

/-- No file is read after an option that follows one. -/
def Files.close : Files → Files
  | awaited => awaited
  | _ => complete

/-- Whether options run together behind the short help option can be read to the end; it is given
whether an operand follows them. -/
def isCluster (operandFollows : Bool) : Text → Bool
  | [] => false
  | ['h'] => true
  | 'h' :: '=' :: _ => false
  | 'h' :: rest => isCluster operandFollows rest
  | ['c'] => operandFollows
  | c :: _ => c != '-'

def operandFollows : List Argument → Bool
  | .operand _ :: _ => true
  | _ => false

/-- Carries out the arguments in order. Those that have no place are passed over; at the end they
count as misuse. -/
def ofArguments (options : Options) (files : Files) (misplaced : Bool) :
    List Argument → Invocation
  | [] => if misplaced then misuse else run options
  | .operand t :: rest =>
    if files = .complete then ofArguments options files true rest
    else ofArguments (options.addFile t) .reading misplaced rest
  | .separator :: rest =>
    if files = .complete then ofArguments options files true rest
    else ofArguments options .reading misplaced rest
  | .unknown :: rest => ofArguments options files.close true rest
  | .helpCluster equals cluster :: rest =>
    if !equals && isCluster (operandFollows rest) cluster then help else misuse
  | .attached f value :: rest =>
    match options.setValue? value f with
    | some options => ofArguments options files.close misplaced rest
    | none => misuse
  | .flag .help :: _ => help
  | .flag f :: rest =>
    if f.takesValue then
      match rest with
      | .operand value :: rest =>
        match options.setValue? value f with
        | some options => ofArguments options files.close misplaced rest
        | none => misuse
      | _ => misuse
    else ofArguments (options.turnOn f) files.close misplaced rest

def read (arguments : List Text) : Invocation :=
  match Argument.readAll? arguments with
  | none => misuse
  | some arguments => ofArguments { } .awaited false arguments

end Invocation
end MacroShell
