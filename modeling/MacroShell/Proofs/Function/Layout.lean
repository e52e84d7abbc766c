import MacroShell.Proofs.Function.Block
import MacroShell.Proofs.Function.Reading

/-!
# Two layouts of a block

A block of commands can be entered line by line or on one line. While the brackets inside are
level, the block stays open up to its last line.
-/

namespace MacroShell

def IsLevel (t : Text) : Prop := t.count '[' = t.count ']'

instance (t : Text) : Decidable (IsLevel t) := inferInstanceAs (Decidable (_ = _))

theorem IsLevel.bracketDepth_eq {t : Text} (h : IsLevel t) : bracketDepth t = 0 := by
  have same : t.count '[' = t.count ']' := h
  rw [bracketDepth, same, Int.sub_self]

namespace Block

def heading (name : Text) : Text := "def ".toList ++ name ++ " => [".toList

theorem heading_eq (name : Text) :
    heading name = "def ".toList ++ (name ++ " => ".toList) ++ ['['] := by
  simp [heading]

theorem trim_heading (name : Text) : (heading name).trim = heading name := by
  have keyword : Text.trim "def".toList = "def".toList := by decide
  have opening : Text.trim ['['] = ['['] := by decide
  simpa [heading] using
    Text.trim_enclosed keyword opening (by decide) (by decide) (' ' :: name ++ " => ".toList)

theorem bracketDepth_heading {name : Text} (level : IsLevel name) :
    bracketDepth (heading name) = 1 := by
  rw [heading, bracketDepth_append, bracketDepth_append, level.bracketDepth_eq]
  decide

theorem opens_heading {name : Text} (level : IsLevel name) : Opens (heading name) := by
  have depth := bracketDepth_heading level
  refine ⟨?_, ⟨"def ".toList ++ name ++ [' '], " [".toList, by simp [heading]⟩, ?_⟩
  · rw [heading, List.append_assoc]
    exact Definition.isDefinition_def (name ++ " => [".toList)
  · unfold bracketDepth at depth
    omega

/-- Level lines are taken into a block in which one bracket is open, and the bracket that closes it
ends the block. -/
theorem feedAll_closing {b : Block} (filled : b.lines ≠ []) (depth : b.depth = 1)
    {lines : List Text} (h : ∀ line ∈ lines, line.trim = line ∧ IsLevel line) :
    b.feedAll (lines ++ [[']']]) =
      (List.replicate lines.length Option.none ++
        [some (Text.joinLines (b.lines ++ lines ++ [[']']]))], none) := by
  induction lines generalizing b with
  | nil =>
    have closing : b.feed [']'] = (some (Text.joinLines (b.lines ++ [[']']])), none) := by
      have closed : ¬ 0 < b.depth + bracketDepth (Text.trim [']']) := by
        rw [depth]
        decide
      rw [feed_later filled, if_neg closed]
      rfl
    rw [List.nil_append, feedAll, closing]
    simp [feedAll]
  | cons line rest ih =>
    obtain ⟨⟨trimmed, level⟩, others⟩ := List.forall_mem_cons.mp h
    have fed : b.feed line = (Option.none, ⟨b.lines ++ [line], 1⟩) := by
      rw [feed_later filled, trimmed, depth, level.bracketDepth_eq]
      rfl
    rw [List.cons_append, feedAll, fed]
    simp only
    rw [ih (by simp) rfl others]
    simp [List.replicate_succ]

/-- **A block is the same definition line by line and on one line.** The lines of the first layout
are taken in without an answer up to the last; the logical line answered then, and the block written
on one line with semicolons and any space around these, are read as the block of just these
commands. -/
theorem feedAll_layouts {name : Text} {commands : List Text} (named : Definition.IsName name)
    (level : IsLevel name) (filled : commands ≠ [])
    (proper : ∀ c ∈ commands, Definition.IsCommand c ∧ IsLevel c) :
    ∃ logical,
      none.feedAll (("def ".toList ++ name ++ " => [".toList) :: commands ++ [[']']]) =
        (List.replicate (commands.length + 1) Option.none ++ [some logical], none) ∧
      Definition.read logical = .ok ⟨name, commands, false⟩ ∧
      ∀ before after : Text, before.isBlank = true → after.isBlank = true →
        Definition.read ("def ".toList ++ name ++ " => [".toList ++
          Text.join (before ++ ';' :: after) commands ++ [']']) = .ok ⟨name, commands, false⟩ := by
  have each : ∀ c ∈ commands, Definition.IsCommand c := fun c mem => (proper c mem).1
  have lines : ∀ c ∈ commands, c.trim = c ∧ IsLevel c :=
    fun c mem => ⟨(proper c mem).1.trimmed, (proper c mem).2⟩
  have opened : none.feed (heading name) = (Option.none, ⟨[heading name], 1⟩) := by
    have first : Opens (heading name).trim := by
      rw [trim_heading]
      exact opens_heading level
    rw [feed_opening rfl first, trim_heading, bracketDepth_heading level]
  refine ⟨Text.joinLines (heading name :: commands ++ [[']']]), ?_, ?_, ?_⟩
  · have closed := feedAll_closing (b := ⟨[heading name], 1⟩) (by simp) rfl lines
    rw [← heading, List.cons_append, feedAll, opened]
    simp only
    rw [closed]
    rfl
  · have block := Definition.read_block named (Definition.splitCommands_lines [] rfl each) filled
    rw [heading_eq, Text.joinLines_block, List.append_assoc]
    simpa using block
  · intro before after hb ha
    have block := Definition.read_block named (Definition.splitCommands_join each hb ha) filled
    simpa using block

/-- Neither the arrows and brackets of a span nor those of a name that starts with the keyword and
has a sign in front of its arrow are mistaken for those of the block. -/
theorem feedAll_layouts_span :
    let name : Text := "def a= [b]".toList
    let commands : List Text := ["echo $[Number:-1 => Number.Abs]".toList, "][ c".toList]
    (∃ logical,
      none.feedAll ["def def a= [b] => [".toList, "echo $[Number:-1 => Number.Abs]".toList,
          "][ c".toList, "]".toList] =
        ([Option.none, Option.none, Option.none, some logical], none) ∧
      Definition.read logical = .ok ⟨name, commands, false⟩) ∧
    Definition.read "def def a= [b] => [echo $[Number:-1 => Number.Abs] ; ][ c]".toList =
      .ok ⟨name, commands, false⟩ := by
  intro name commands
  have named : Definition.IsName name := ⟨by decide, by decide, by decide⟩
  have proper : ∀ c ∈ commands, Definition.IsCommand c ∧ IsLevel c :=
    List.forall_mem_cons.mpr ⟨by decide +kernel, List.forall_mem_singleton.mpr (by decide)⟩
  obtain ⟨logical, fed, lines, inline⟩ := feedAll_layouts named (by decide) (by decide) proper
  exact ⟨⟨logical, fed, lines⟩, inline [' '] [' '] (by decide) (by decide)⟩

end Block
end MacroShell
