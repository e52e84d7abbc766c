import MacroShell.Proofs.Text.Words
import MacroShell.Session.Command

/-!
# Reading command lines

The name of a command line is its first word, and the text of its arguments is what follows behind
the space after it. The arguments are the words of that text.
-/

namespace MacroShell
namespace Command

theorem read_of_words {line name : Text} {arguments : List Text}
    (h : line.words = name :: arguments) :
    read line = ⟨name, arguments, Text.trim (line.trim.drop name.length), line⟩ := by
  rw [read, h]

theorem read_of_isBlank {line : Text} (h : line.isBlank = true) : read line = ⟨[], [], [], line⟩ := by
  rw [read, Text.words_of_isBlank h]

theorem read_of_isCut {line name space rest : Text} (h : line.trim.IsCut name space rest) :
    read line = ⟨name, rest.words, rest, line⟩ := by
  have words : line.words = name :: rest.words := by rw [← line.words_trim, h.words_eq]
  have behind : Text.trim (line.trim.drop name.length) = rest := by
    rw [h.whole, List.append_assoc, List.drop_left, ← List.append_nil (space ++ rest),
      Text.trim_append_of_isBlank h.blank rest (by rfl), h.trimmed]
  rw [read_of_words words, behind]

/-- The name and the text of the arguments are the line but for the space between them. -/
theorem exists_isCut_read {line : Text} (filled : line.isBlank = false) :
    ∃ space, line.trim.IsCut (read line).name space (read line).argumentText := by
  have nonempty : line.trim ≠ [] := by
    rw [ne_eq, Text.trim_eq_nil_iff, filled]
    exact Bool.false_ne_true
  have cut := Text.isCut_firstWord nonempty line.trim_trim
  rw [read_of_isCut cut]
  exact ⟨_, cut⟩

/-- The arguments are the words of their text; so it is with a blank line, which has none. -/
theorem isSpaced_argumentText (line : Text) :
    (read line).argumentText.IsSpaced (read line).arguments := by
  cases filled : line.isBlank with
  | true =>
    rw [read_of_isBlank filled]
    exact .nil
  | false =>
    obtain ⟨space, cut⟩ := exists_isCut_read filled
    have words := congrArg arguments (read_of_isCut cut)
    exact Text.isSpaced_iff.mpr ⟨cut.trimmed, words.symm⟩

/-- A command made up of words reads back from these words with single spaces between them. -/
theorem read_text {c : Command} {t : Text} (nonempty : c.name ≠ [])
    (solid : ∀ x ∈ c.name, isSpace x = false) (spaced : t.IsSpaced c.arguments) :
    read c.text = ⟨c.name, c.arguments, Text.join [' '] c.arguments, c.text⟩ := by
  obtain ⟨space, cut⟩ := Text.isCut_join nonempty solid spaced.join
  have joined : c.text.trim.IsCut c.name space (Text.join [' '] c.arguments) := by
    rw [text, cut.trim_eq]
    exact cut
  rw [read_of_isCut joined, spaced.join.words_eq]

/-- **A line is read without loss.** But for the space around it, it is the name, space and the text
of the arguments. The name is a word; the text has no space around it, is empty only if there are no
arguments, and has the arguments for its words. Written with single spaces, the command reads back
with the same name and arguments. -/
theorem read_lossless {line : Text} (filled : line.isBlank = false) :
    let c := read line
    (∃ space : Text, space.isBlank = true ∧ line.trim = c.name ++ space ++ c.argumentText ∧
        (space = [] ↔ c.arguments = [])) ∧
      c.name ≠ [] ∧ (∀ x ∈ c.name, isSpace x = false) ∧
      c.argumentText.trim = c.argumentText ∧ (c.argumentText = [] ↔ c.arguments = []) ∧
      c.argumentText.words = c.arguments ∧ c.argumentText.IsSpaced c.arguments ∧
      read c.text = ⟨c.name, c.arguments, Text.join [' '] c.arguments, c.text⟩ := by
  intro c
  obtain ⟨space, cut⟩ := exists_isCut_read filled
  have spaced : c.argumentText.IsSpaced c.arguments := isSpaced_argumentText line
  have same : c.argumentText = [] ↔ c.arguments = [] := spaced.eq_nil_iff
  exact ⟨⟨space, cut.blank, cut.whole, cut.space_eq_nil_iff.trans same⟩, cut.nonempty, cut.solid,
    cut.trimmed, same, spaced.words_eq, spaced, read_text cut.nonempty cut.solid spaced⟩

/-- Tabs, separators and wide space are space, and the text of the arguments keeps them. -/
theorem read_lossless_mixed :
    let line : Text := "\techo\x1f a\u2003 b \n".toList
    let c : Command := ⟨"echo".toList, [['a'], ['b']], "a\u2003 b".toList, line⟩
    line.isBlank = false ∧ read line = c ∧
      (∃ space : Text, space.isBlank = true ∧ line.trim = c.name ++ space ++ c.argumentText ∧
        (space = [] ↔ c.arguments = [])) ∧
      c.argumentText.words = c.arguments ∧ c.argumentText.IsSpaced c.arguments ∧
      read "echo a b".toList = ⟨c.name, c.arguments, "a b".toList, "echo a b".toList⟩ := by
  intro line c
  have filled : line.isBlank = false := by decide
  have called : read line = c := by decide +kernel
  have lossless := read_lossless filled
  rw [called] at lossless
  obtain ⟨cut, -, -, -, -, words, spaced, same⟩ := lossless
  exact ⟨filled, called, cut, words, spaced, same⟩

end Command
end MacroShell
