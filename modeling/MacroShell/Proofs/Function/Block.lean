import Mathlib.Algebra.Ring.Int.Defs
import MacroShell.Function.Block
import MacroShell.Proofs.Text.Arrow

/-!
# Logical lines partition the lines taken in

The lines of an open block and the number of brackets that are open in it are kept side by side.
`Valid` ties the two together; `Valid.feed` is what one more line can do to them.
-/

namespace MacroShell

/-- How many more opening than closing brackets some lines have together. -/
def netDepth (lines : List Text) : Int := (lines.map bracketDepth).sum

theorem bracketDepth_append (t u : Text) :
    bracketDepth (t ++ u) = bracketDepth t + bracketDepth u := by
  simp only [bracketDepth, List.count_append]
  omega

theorem netDepth_cons (line : Text) (rest : List Text) :
    netDepth (line :: rest) = bracketDepth line + netDepth rest := by
  simp [netDepth]

theorem netDepth_append (first second : List Text) :
    netDepth (first ++ second) = netDepth first + netDepth second := by
  simp [netDepth]

theorem netDepth_singleton (line : Text) : netDepth [line] = bracketDepth line := by
  simp [netDepth]

namespace Block

/-- A definition that has an arrow and more opening than closing brackets. -/
def Opens (line : Text) : Prop :=
  Definition.isDefinition line = true ∧ line.HasArrow ∧ line.count ']' < line.count '['

theorem opens_iff {line : Text} : opens line = true ↔ Opens line := by
  have depth : 0 < bracketDepth line ↔ line.count ']' < line.count '[' := by
    unfold bracketDepth
    omega
  rw [opens, Bool.and_eq_true, Bool.and_eq_true, decide_eq_true_eq, Text.cutArrow?_isSome_iff,
    depth, and_assoc]
  rfl

/-- Lines that make up one block: the first opens it, and the last is the first to leave no bracket
open. -/
structure IsBlock (group : List Text) : Prop where
  opening : ∃ first ∈ group.head?, Opens first
  balance : ∀ front, front <+: group → front ≠ [] → front ≠ group → 0 < netDepth front
  closed : netDepth group ≤ 0

def IsGroup (group : List Text) : Prop := (∃ line, group = [line] ∧ ¬ Opens line) ∨ IsBlock group

theorem IsGroup.ne_nil {group : List Text} (h : IsGroup group) : group ≠ [] := by
  rintro rfl
  rcases h with ⟨line, single, -⟩ | ⟨⟨first, mem, -⟩, -, -⟩
  · cases single
  · cases mem

/-- The depth is that of the lines, of which the first opens the block and none closes it. -/
structure Valid (b : Block) : Prop where
  depth : b.depth = netDepth b.lines
  opening : ∀ first ∈ b.lines.head?, Opens first
  balance : ∀ front, front <+: b.lines → front ≠ [] → 0 < netDepth front

theorem valid_none : none.Valid := by
  refine ⟨rfl, nofun, ?_⟩
  intro front short filled
  exact absurd (List.prefix_nil.mp short) filled

variable {b : Block}

theorem isOpen_iff : b.isOpen = true ↔ b.lines ≠ [] := by
  simp [isOpen]

theorem eq_none_of_lines (h : b.Valid) (nil : b.lines = []) : b = none := by
  have depth := h.depth
  cases b
  simp_all [none, netDepth]

theorem Valid.isOpen_iff_depth (h : b.Valid) :
    b.isOpen = true ↔ 0 < b.depth ∧ b.depth = netDepth b.lines := by
  rw [isOpen_iff]
  constructor
  · intro filled
    rw [h.depth]
    exact ⟨h.balance b.lines List.prefix_rfl filled, rfl⟩
  · rintro ⟨positive, same⟩ nil
    rw [same, nil] at positive
    exact absurd positive (by decide)

/-! ## One line -/

theorem feed_single (h : b.Valid) (nil : b.lines = []) {line : Text} (single : ¬ Opens line.trim) :
    b.feed line = (some line.trim, none) := by
  have closed : opens line.trim = false := by rwa [← Bool.not_eq_true, opens_iff]
  rw [eq_none_of_lines h nil]
  simp [feed, none, closed]

theorem feed_opening (nil : b.lines = []) {line : Text} (first : Opens line.trim) :
    b.feed line = (Option.none, ⟨[line.trim], bracketDepth line.trim⟩) := by
  simp [feed, nil, opens_iff.mpr first]

theorem feed_later (filled : b.lines ≠ []) (line : Text) :
    b.feed line =
      if 0 < b.depth + bracketDepth line.trim then
        (Option.none, ⟨b.lines ++ [line.trim], b.depth + bracketDepth line.trim⟩)
      else (some (Text.joinLines (b.lines ++ [line.trim])), none) := by
  simp [feed, filled]

theorem valid_opening {line : Text} (first : Opens line) : Valid ⟨[line], bracketDepth line⟩ := by
  refine ⟨(netDepth_singleton line).symm, ?_, ?_⟩
  · intro other mem
    obtain rfl : line = other := Option.some.inj mem
    exact first
  · intro front short filled
    obtain rfl : front = [line] :=
      (List.prefix_concat_iff.mp (show front <+: [] ++ [line] from short)).resolve_right
        fun none => filled (List.prefix_nil.mp none)
    rw [netDepth_singleton, bracketDepth]
    have more := first.2.2
    omega

/-- **What one line does.** Either a block is open after it, with this line at its end, or the
lines of the block and this line make up a logical line. -/
theorem Valid.feed (h : b.Valid) (line : Text) :
    (∃ after, b.feed line = (Option.none, after) ∧ after.Valid ∧
      after.lines = b.lines ++ [line.trim]) ∨
    b.feed line = (some (Text.joinLines (b.lines ++ [line.trim])), none) ∧
      IsGroup (b.lines ++ [line.trim]) := by
  by_cases nil : b.lines = []
  · by_cases first : Opens line.trim
    · exact Or.inl ⟨_, feed_opening nil first, valid_opening first, by simp [nil]⟩
    · refine Or.inr ⟨?_, Or.inl ⟨line.trim, by simp [nil], first⟩⟩
      simp [feed_single h nil first, nil, Text.joinLines, Text.join]
  · have total : netDepth (b.lines ++ [line.trim]) = b.depth + bracketDepth line.trim := by
      rw [netDepth_append, netDepth_singleton, h.depth]
    have head : (b.lines ++ [line.trim]).head? = b.lines.head? :=
      List.head?_append_of_ne_nil _ nil
    rw [feed_later nil]
    split
    · rename_i positive
      refine Or.inl ⟨_, rfl, ⟨total.symm, ?_, ?_⟩, rfl⟩
      · rw [head]
        exact h.opening
      · intro front short filled
        rcases List.prefix_concat_iff.mp short with rfl | short
        · rwa [total]
        · exact h.balance front short filled
    · rename_i positive
      refine Or.inr ⟨rfl, Or.inr ⟨?_, ?_, by omega⟩⟩
      · obtain ⟨first, rest, split⟩ := List.exists_cons_of_ne_nil nil
        exact ⟨first, by simp [split], h.opening first (by simp [split])⟩
      · intro front short filled proper
        exact h.balance front ((List.prefix_concat_iff.mp short).resolve_left proper) filled

/-! ## Lines one after another -/

def feedAll (b : Block) : List Text → List (Option Text) × Block
  | [] => ([], b)
  | line :: rest =>
    let (answer, b) := b.feed line
    let (answers, b) := feedAll b rest
    (answer :: answers, b)

/-- The answers to the lines of a group: its last line is answered for all of them. -/
def answersTo (group : List Text) : List (Option Text) :=
  List.replicate (group.length - 1) Option.none ++ [some (Text.joinLines group)]

theorem answersTo_append_singleton (lines : List Text) (line : Text) :
    answersTo (lines ++ [line]) =
      List.replicate lines.length Option.none ++ [some (Text.joinLines (lines ++ [line]))] := by
  simp [answersTo]

/-- The lines of the open block and those taken in are groups, each answered with its last line,
and the lines of the block that is open at the end. -/
theorem feedAll_groups (h : b.Valid) (lines : List Text) :
    (b.feedAll lines).2.Valid ∧
      ∃ groups : List (List Text), (∀ group ∈ groups, IsGroup group) ∧
        b.lines ++ lines.map Text.trim = groups.flatten ++ (b.feedAll lines).2.lines ∧
        List.replicate b.lines.length Option.none ++ (b.feedAll lines).1 =
          groups.flatMap answersTo ++
            List.replicate (b.feedAll lines).2.lines.length Option.none := by
  induction lines generalizing b with
  | nil => exact ⟨h, [], nofun, by simp [feedAll], by simp [feedAll]⟩
  | cons line rest ih =>
    rcases h.feed line with ⟨after, fed, valid, grown⟩ | ⟨fed, group⟩
    · obtain ⟨last, groups, all, parts, answers⟩ := ih valid
      rw [feedAll, fed]
      refine ⟨last, groups, all, ?_, ?_⟩
      · rw [← parts, grown, List.map_cons, List.append_assoc, List.singleton_append]
      · rw [← answers, grown, List.length_append, List.length_singleton, List.replicate_succ',
          List.append_assoc, List.singleton_append]
    · obtain ⟨last, groups, all, parts, answers⟩ := ih valid_none
      rw [feedAll, fed]
      refine ⟨last, (b.lines ++ [line.trim]) :: groups, ?_, ?_, ?_⟩
      · exact List.forall_mem_cons.mpr ⟨group, all⟩
      · simp only [List.flatten_cons, List.append_assoc, ← parts]
        simp [none]
      · simp only [List.flatMap_cons, List.append_assoc, ← answers, answersTo_append_singleton]
        simp [none]

theorem finish_eq_error_iff : (∃ e, b.finish.1 = .error e) ↔ b.isOpen = true := by
  obtain ⟨lines, depth⟩ := b
  cases lines with
  | nil => exact iff_of_false nofun nofun
  | cons opening rest => exact iff_of_true ⟨_, rfl⟩ rfl

theorem Valid.finish (h : b.Valid) : b.finish.2 = none := by
  unfold Block.finish
  split
  · rename_i nil
    exact eq_none_of_lines h nil
  · rfl

/-- **Logical lines partition the lines taken in.** Trimmed and in order, these are the groups that
were answered for, each as one logical line, and then the lines of the block that is still open.
A group is a line that opens no block, or a block. A block is open exactly while lines wait, which
is while the depth kept is positive and that of these lines; only then is it an error to end the
input, and afterwards no block is open. -/
theorem feedAll_partition (lines : List Text) :
    let (answers, b) := feedAll none lines
    (∃ groups : List (List Text),
      lines.map Text.trim = groups.flatten ++ b.lines ∧
      answers = groups.flatMap answersTo ++ List.replicate b.lines.length Option.none ∧
      ∀ group ∈ groups, group ≠ [] ∧ IsGroup group) ∧
    (b.isOpen = true ↔ b.lines ≠ []) ∧
    (b.isOpen = true ↔ 0 < b.depth ∧ b.depth = netDepth b.lines) ∧
    ((∃ e, b.finish.1 = .error e) ↔ b.isOpen = true) ∧ b.finish.2 = none := by
  obtain ⟨valid, groups, all, parts, answers⟩ := feedAll_groups valid_none lines
  refine ⟨⟨groups, parts, answers, ?_⟩, isOpen_iff, valid.isOpen_iff_depth, finish_eq_error_iff,
    valid.finish⟩
  intro group mem
  exact ⟨(all group mem).ne_nil, all group mem⟩

end Block
end MacroShell
