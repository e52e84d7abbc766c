import MacroShell.Language.Line
import MacroShell.Proofs.Text.Space

/-!
# Expanding lines

A span starts with a dollar sign. What stands before the first one is kept as it is.
-/

namespace MacroShell

theorem isSpace_ne_dollar {c : Char} (h : isSpace c = true) : c ≠ '$' := by
  rintro rfl
  exact absurd h (by decide)

namespace Line

theorem readFront?_cons {c : Char} (h : c ≠ '$') (rest : Text) :
    Macro.readFront? (c :: rest) = none := by
  have other : (c == '$') = false := beq_eq_false_iff_ne.mpr h
  simp [Macro.readFront?, Macro.pattern, Pattern.matchFront?, Pattern.row, Pattern.mark,
    Pattern.run, other]

theorem pieces_cons {c : Char} (h : c ≠ '$') (rest : Text) :
    pieces (c :: rest) = .plain c :: pieces rest := by
  simp [pieces, piecesAfter, readFront?_cons h]

/-- There are no spans in a blank line, so that it need not be looked at. -/
theorem expand_eq (now : Moment) (line : Text) :
    expand now line = (pieces line).flatMap (expandPiece now) := by
  unfold expand
  split
  · rename_i blank
    induction line with
    | nil => rfl
    | cons c rest ih =>
      obtain ⟨space, blank⟩ := Text.isBlank_cons.mp blank
      rw [pieces_cons (isSpace_ne_dollar space), List.flatMap_cons, ← ih blank]
      rfl
  · rfl

theorem expand_cons {c : Char} (h : c ≠ '$') (now : Moment) (rest : Text) :
    expand now (c :: rest) = c :: expand now rest := by
  rw [expand_eq, expand_eq, pieces_cons h]
  rfl

theorem expand_append {w : Text} (h : ∀ c ∈ w, c ≠ '$') (now : Moment) (rest : Text) :
    expand now (w ++ rest) = w ++ expand now rest := by
  induction w with
  | nil => rfl
  | cons c w ih =>
    rw [List.cons_append, expand_cons (h c List.mem_cons_self),
      ih fun d hd => h d (List.mem_cons_of_mem c hd)]
    rfl

end Line
end MacroShell
