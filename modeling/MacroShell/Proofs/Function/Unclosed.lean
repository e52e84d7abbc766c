import MacroShell.Proofs.Function.Block
import MacroShell.Proofs.Function.OrderedMap

/-!
# Blocks without their closing bracket

Reading a definition looks at the first and the last character of the body and does not count
brackets. If the last character closes a span, that bracket is taken for the one of the block, and
the span is stored without it.
-/

namespace MacroShell

theorem bracketDepth_trim (t : Text) : bracketDepth t.trim = bracketDepth t := by
  have marks : isSpace '[' = false ∧ isSpace ']' = false := by decide
  rw [bracketDepth, bracketDepth, Text.count_trim marks.1, Text.count_trim marks.2]

theorem bracketDepth_pos_iff {t : Text} : 0 < bracketDepth t ↔ t.count ']' < t.count '[' := by
  unfold bracketDepth
  omega

theorem exists_unclosed {lines : List Text} (h : 0 < netDepth lines) :
    ∃ line ∈ lines, 0 < bracketDepth line := by
  induction lines with
  | nil => cases h
  | cons line rest ih =>
    rw [netDepth_cons] at h
    by_cases here : 0 < bracketDepth line
    · exact ⟨line, List.mem_cons_self, here⟩
    · obtain ⟨other, mem, more⟩ := ih (by omega)
      exact ⟨other, List.mem_cons_of_mem line mem, more⟩

namespace Definition

/-! ## The brackets of the commands -/

theorem bracketDepth_separator {c : Char} (h : separates c = true) : bracketDepth [c] = 0 := by
  have among : (c = ';' ∨ c = '\r') ∨ c = '\n' := by simpa [separates] using h
  rcases among with (rfl | rfl) | rfl <;> decide

theorem netDepth_splitOn (t : Text) : netDepth (t.splitOn separates) = bracketDepth t := by
  induction t with
  | nil => rfl
  | cons c rest ih =>
    obtain ⟨first, others, split, -⟩ := Text.splitOn_parts separates rest
    have here (u : Text) : bracketDepth (c :: u) = bracketDepth [c] + bracketDepth u :=
      bracketDepth_append [c] u
    rw [here, ← ih, Text.splitOn, split]
    cases separator : separates c with
    | true =>
      rw [bracketDepth_separator separator]
      rfl
    | false =>
      rw [netDepth_cons, ← Int.add_assoc, ← here, ← netDepth_cons]
      rfl

/-- Neither trimming the pieces nor leaving out empty ones loses a bracket. -/
theorem netDepth_filled (pieces : List Text) :
    netDepth ((pieces.map Text.trim).filter (!·.isEmpty)) = netDepth pieces := by
  induction pieces with
  | nil => rfl
  | cons piece rest ih =>
    have same := bracketDepth_trim piece
    rw [List.map_cons, List.filter_cons, netDepth_cons, ← same]
    split
    · rw [netDepth_cons, ih]
    · rename_i empty
      have nil : piece.trim = [] := by simpa using empty
      have none : bracketDepth [] = 0 := rfl
      rw [ih, nil, none, Int.zero_add]

/-- **The brackets inside a block are those of its commands.** -/
theorem netDepth_splitCommands (t : Text) : netDepth (splitCommands t) = bracketDepth t := by
  rw [splitCommands_eq, netDepth_filled, netDepth_splitOn]

/-! ## Reading -/

theorem readBody_noClosingBracket {name body : Text} (opening : body.head? = some '[')
    (ending : body.getLast? ≠ some ']') : readBody name body = .error .noClosingBracket := by
  obtain ⟨rest, rfl⟩ := List.head?_eq_some_iff.mp opening
  rw [readBody, if_neg]
  intro closing
  apply ending
  rw [List.getLast?_cons, closing]
  rfl

/-- A block that ends in a closing bracket is read, and what is left open in it is left open in one
of its commands. -/
theorem readBody_unclosed {name body : Text} (opening : body.head? = some '[')
    (ending : body.getLast? = some ']') (unclosed : 0 < bracketDepth body) :
    ∃ d, readBody name body = .ok d ∧ ∃ c ∈ d.commands, 0 < bracketDepth c := by
  obtain ⟨rest, rfl⟩ := List.head?_eq_some_iff.mp opening
  have closing : rest.getLast? = some ']' := by
    cases rest with
    | nil => cases ending
    | cons => exact ending
  obtain ⟨inside, rfl⟩ := List.getLast?_eq_some_iff.mp closing
  have brackets : bracketDepth ['['] = 1 ∧ bracketDepth [']'] = -1 := by decide
  have whole : bracketDepth ('[' :: (inside ++ [']'])) = 1 + (bracketDepth inside + -1) := by
    rw [← List.singleton_append, bracketDepth_append, bracketDepth_append, brackets.1, brackets.2]
  have between : 0 < netDepth (splitCommands inside) := by
    rw [netDepth_splitCommands]
    omega
  obtain ⟨c, mem, more⟩ := exists_unclosed between
  exact ⟨_, readBody_block rfl (List.ne_nil_of_mem mem), c, mem, more⟩

/-- **A block with too few closing brackets is refused only if its end does not look like one.** Let
the body behind the first arrow open a block and have more opening than closing brackets. Without a
name, or if the body does not end in a closing bracket, nothing is stored. In all other cases the
definition is read, and one of the commands that are stored lacks a bracket. -/
theorem read_unclosed {source front body : Text} (cut : source.cutArrow? = some (front, body))
    (opening : body.trim.head? = some '[') (unclosed : body.count ']' < body.count '[') :
    (nameBefore front = [] ∨ body.trim.getLast? ≠ some ']' → ∃ e, read source = .error e ∧
      ∀ t : FunctionTable, t.serve (.define source) = (.defined (.error e), t)) ∧
    (nameBefore front ≠ [] → body.trim.getLast? = some ']' → ∃ d, read source = .ok d ∧
      ∃ c ∈ d.commands, c.count ']' < c.count '[') := by
  obtain ⟨rfl, plain⟩ := Text.cutArrow?_eq_some cut
  constructor
  · intro refused
    obtain ⟨e, error⟩ : ∃ e, read (front ++ '=' :: '>' :: body) = .error e := by
      rw [read_arrow plain]
      split
      · exact ⟨_, rfl⟩
      · rename_i named
        exact ⟨_, readBody_noClosingBracket opening (refused.resolve_left named)⟩
    exact ⟨e, error, fun t => FunctionTable.serve_define_error error⟩
  · intro named ending
    rw [read_arrow plain, if_neg named]
    have more : 0 < bracketDepth body.trim := by
      rw [bracketDepth_trim]
      exact bracketDepth_pos_iff.mpr unclosed
    simpa only [bracketDepth_pos_iff] using readBody_unclosed opening ending more

/-- A span in the last command but one, which is closed, and one at the end, whose bracket is
taken. -/
theorem read_unclosed_spans :
    let refused : Text := "def f => [ echo $[Number:1] ; b".toList
    let stored : Text := "f => [ $[:a] ; echo $[:b]".toList
    (∃ e, read refused = .error e ∧
      FunctionTable.empty.serve (.define refused) = (.defined (.error e), .empty)) ∧
    read stored = .ok ⟨['f'], ["$[:a]".toList, "echo $[:b".toList], false⟩ ∧
    ∃ d, read stored = .ok d ∧ ∃ c ∈ d.commands, c.count ']' < c.count '[' := by
  intro refused stored
  have cut : refused.cutArrow? = some ("def f ".toList, " [ echo $[Number:1] ; b".toList) := by
    decide
  have cut' : stored.cutArrow? = some ("f ".toList, " [ $[:a] ; echo $[:b]".toList) := by decide
  obtain ⟨e, error, kept⟩ :=
    (read_unclosed cut (by decide +kernel) (by decide)).1 (Or.inr (by decide +kernel))
  exact ⟨⟨e, error, kept .empty⟩, by decide +kernel,
    (read_unclosed cut' (by decide +kernel) (by decide)).2 (by decide +kernel) (by decide +kernel)⟩

/-- The bracket of a span at the end is taken for the one that closes the block. -/
theorem read_unclosed_accepted :
    let source : Text := "f => [ echo $[Number:1]".toList
    let body : Text := " [ echo $[Number:1]".toList
    let d : Definition := ⟨['f'], ["echo $[Number:1".toList], false⟩
    source.cutArrow? = some (['f', ' '], body) ∧ body.trim.head? = some '[' ∧
      body.count ']' < body.count '[' ∧ read source = .ok d ∧
      FunctionTable.empty.serve (.define source) = (.defined (.ok d), ⟨[d]⟩) := by
  intro source body d
  have read : read source = .ok d := by decide +kernel
  exact ⟨by decide, by decide +kernel, by decide, read, FunctionTable.serve_define_ok read⟩

end Definition
end MacroShell
