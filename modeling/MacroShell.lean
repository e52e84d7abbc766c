import MacroShell.Main
import MacroShell.Proofs.Calculator.Evaluation
import MacroShell.Proofs.Calculator.Overflow
import MacroShell.Proofs.Calculator.Reordering
import MacroShell.Proofs.Calendar.Groups
import MacroShell.Proofs.Function.Layout
import MacroShell.Proofs.Function.Unclosed
import MacroShell.Proofs.Function.OrderedMap
import MacroShell.Proofs.Function.Reading
import MacroShell.Proofs.Language.Call
import MacroShell.Proofs.Language.Conversion
import MacroShell.Proofs.Language.Detection
import MacroShell.Proofs.Language.Expansion
import MacroShell.Proofs.Language.Numeral
import MacroShell.Proofs.Language.Recovery
import MacroShell.Proofs.Language.Surface
import MacroShell.Proofs.Language.TimeOfDay
import MacroShell.Proofs.Session.CallChain
import MacroShell.Proofs.Session.Rounds
import MacroShell.Proofs.Session.Definitions
import MacroShell.Proofs.Session.Invocation
import MacroShell.Proofs.Session.ExitStatus
import MacroShell.Proofs.Session.Deletion
import MacroShell.Proofs.Session.OpenBlock
import MacroShell.Proofs.Session.WorkingDirectory
import MacroShell.Proofs.Session.Command
