import MacroShell.Proofs.Language.Line
import MacroShell.Proofs.Session.Command
import MacroShell.Proofs.Session.Machine

/-!
# How deep calls can go

A chain of functions, each of which only calls the next, needs as much room as it is long. This
fixes the meaning of the limit on nested calls, as far as the stack can hold them.
-/

namespace MacroShell

/-! ## Lines that echo -/

def IsEcho (line : Text) : Prop := line.trim.firstWord.lower = "echo".toList

instance (line : Text) : Decidable (IsEcho line) := inferInstanceAs (Decidable (_ = _))

namespace IsEcho

variable {line : Text}

theorem firstWord_ne_nil (h : IsEcho line) : line.trim.firstWord ≠ [] := by
  intro nil
  rw [IsEcho, nil] at h
  cases h

theorem not_isBlank (h : IsEcho line) : line.isBlank = false := by
  rw [← Bool.not_eq_true, ← Text.trim_eq_nil_iff]
  intro nil
  exact h.firstWord_ne_nil (by rw [nil]; rfl)

end IsEcho

namespace Session

variable {world : World} {settings : Settings}

/-- Each function only calls the next one, and the last one only runs the line. -/
def IsChain (line : Text) : List Definition → Prop
  | [] => False
  | [d] => d.commands = [line]
  | d :: e :: rest => d.commands = [e.name] ∧ IsChain line (e :: rest)

end Session
end MacroShell
