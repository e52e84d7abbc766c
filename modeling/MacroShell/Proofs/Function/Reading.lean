import MacroShell.Function.Definition
import MacroShell.Proofs.Text.Arrow

/-!
# Reading and showing definitions

A definition that has been read has a name and commands of a certain form (`Proper`). That form is
what makes it readable again: shown after the keyword, its name still ends at the first arrow, and
its commands are still cut where they were.
-/

namespace MacroShell

/-! ## Joined lines -/

namespace Text

theorem joinLines_cons (line : Text) (rest : List Text) :
    joinLines (line :: rest) = line ++ joinLines ([] :: rest) := by
  cases rest <;> simp [joinLines, join, List.intercalate_cons_cons]

theorem joinLines_append_singleton (lines : List Text) (last : Text) :
    joinLines (lines ++ [last]) = joinLines (lines ++ [[]]) ++ last := by
  induction lines with
  | nil => simp [joinLines, join]
  | cons line rest ih =>
    rw [List.cons_append, List.cons_append]
    cases rest with
    | nil => simp [joinLines, join, List.intercalate_cons_cons]
    | cons next rest =>
      simp only [joinLines, join, List.cons_append, List.intercalate_cons_cons,
        List.append_assoc] at ih ⊢
      rw [ih]

/-- Brackets around lines, the first at the end of a heading and the last on a line of its own. -/
theorem joinLines_block (heading : Text) (lines : List Text) :
    joinLines ((heading ++ ['[']) :: lines ++ [[']']]) =
      heading ++ ('[' :: joinLines ([] :: lines ++ [[]]) ++ [']']) := by
  rw [List.cons_append, joinLines_cons, ← List.cons_append, joinLines_append_singleton]
  simp

end Text

namespace Definition

def separates (c : Char) : Bool := c = ';' || c = '\r' || c = '\n'

/-- A command of a block: not empty, without space around it, and with nothing in it that separates
commands. -/
structure IsCommand (c : Text) : Prop where
  nonempty : c ≠ []
  trimmed : c.trim = c
  solid : ∀ x ∈ c, separates x = false

theorem isCommand_iff {c : Text} : IsCommand c ↔ c ≠ [] ∧ c.trim = c ∧ c.all (!separates ·) := by
  simp only [List.all_eq_true, Bool.not_eq_true']
  exact ⟨fun h => ⟨h.nonempty, h.trimmed, h.solid⟩, fun ⟨n, t, s⟩ => ⟨n, t, s⟩⟩

instance (c : Text) : Decidable (IsCommand c) := decidable_of_iff' _ isCommand_iff

theorem splitCommands_eq (t : Text) :
    splitCommands t = ((t.splitOn separates).map Text.trim).filter (!·.isEmpty) := rfl

theorem splitCommands_append_cons {c : Char} (h : separates c = true) (u v : Text) :
    splitCommands (u ++ c :: v) = splitCommands u ++ splitCommands v := by
  simp only [splitCommands_eq, Text.splitOn_eq_splitOnP, List.splitOnP_append_cons u v h,
    List.map_append, List.filter_append]

theorem splitCommands_of_solid {t : Text} (h : ∀ x ∈ t, separates x = false) :
    splitCommands t = [t.trim].filter (!·.isEmpty) := by
  rw [splitCommands_eq, Text.splitOn_eq_splitOnP, List.splitOnP_eq_singleton h, List.map_singleton]

theorem splitCommands_nil : splitCommands [] = [] := rfl

/-- Space in front of a block is not part of any command. -/
theorem splitCommands_blank_append {u : Text} (h : u.isBlank = true) (t : Text) :
    splitCommands (u ++ t) = splitCommands t := by
  induction u with
  | nil => rfl
  | cons c rest ih =>
    obtain ⟨space, blank⟩ := Text.isBlank_cons.mp h
    rw [← ih blank, List.cons_append]
    cases separator : separates c with
    | true => exact splitCommands_append_cons separator [] (rest ++ t)
    | false =>
      obtain ⟨first, others, split, -, -⟩ := Text.splitOn_parts separates (rest ++ t)
      simp only [splitCommands_eq, Text.splitOn, separator, split, Text.consHead, List.map_cons,
        Text.trim_cons_space space, Bool.false_eq_true, ↓reduceIte]

/-- Nor is space behind a piece, whether it separates or not. -/
theorem splitCommands_append_blank {t u : Text} (ht : ∀ x ∈ t, separates x = false)
    (hu : u.isBlank = true) : splitCommands (t ++ u) = splitCommands t := by
  induction u generalizing t with
  | nil => rw [List.append_nil]
  | cons c rest ih =>
    obtain ⟨space, blank⟩ := Text.isBlank_cons.mp hu
    cases separator : separates c with
    | true =>
      have nothing : splitCommands rest = [] := ih (t := []) nofun blank
      rw [splitCommands_append_cons separator, nothing, List.append_nil]
    | false =>
      have longer : ∀ x ∈ t ++ [c], separates x = false :=
        List.forall_mem_append.mpr ⟨ht, by simpa using separator⟩
      rw [List.append_cons, ih longer blank, splitCommands_of_solid longer,
        Text.trim_append_space space, splitCommands_of_solid ht]

theorem IsCommand.splitCommands {c : Text} (h : IsCommand c) : splitCommands c = [c] := by
  rw [splitCommands_of_solid h.solid, h.trimmed]
  simp [h.nonempty]

theorem isCommand_of_mem {t c : Text} (h : c ∈ splitCommands t) : IsCommand c ∧ c <:+: t := by
  obtain ⟨mem, filled⟩ := List.mem_filter.mp h
  obtain ⟨piece, found, rfl⟩ := List.mem_map.mp mem
  obtain ⟨first, others, split, -, parts⟩ := Text.splitOn_parts separates t
  rw [← split] at parts
  obtain ⟨part, solid⟩ := parts piece found
  refine ⟨⟨by simpa using filled, piece.trim_trim, fun x hx => ?_⟩, piece.trim_isInfix.trans part⟩
  exact solid x (piece.trim_isInfix.subset hx)

/-- Commands between semicolons with any space around them. -/
theorem splitCommands_join {commands : List Text} (h : ∀ c ∈ commands, IsCommand c)
    {before after : Text} (hb : before.isBlank = true) (ha : after.isBlank = true) :
    splitCommands (Text.join (before ++ ';' :: after) commands) = commands := by
  induction commands with
  | nil => rfl
  | cons c rest ih =>
    obtain ⟨command, others⟩ := List.forall_mem_cons.mp h
    cases rest with
    | nil => rw [Text.join, List.intercalate_singleton, command.splitCommands]
    | cons d rest =>
      have apart : Text.join (before ++ ';' :: after) (c :: d :: rest) =
          c ++ before ++ ';' :: (after ++ Text.join (before ++ ';' :: after) (d :: rest)) := by
        simp [Text.join, List.intercalate_cons_cons]
      rw [apart, splitCommands_append_cons rfl, splitCommands_append_blank command.solid hb,
        command.splitCommands, splitCommands_blank_append ha, ih others]
      rfl

/-- Lines that hold pieces of a block hold its commands. -/
theorem splitCommands_joinLines (lines : List Text) :
    splitCommands (Text.joinLines lines) = lines.flatMap splitCommands := by
  induction lines with
  | nil => rfl
  | cons line rest ih =>
    cases rest with
    | nil => simp [Text.joinLines, Text.join]
    | cons next rest =>
      have apart : Text.joinLines (line :: next :: rest) =
          line ++ '\n' :: Text.joinLines (next :: rest) := by
        simp [Text.joinLines, Text.join, List.intercalate_cons_cons]
      rw [apart, splitCommands_append_cons rfl, ih, ← List.flatMap_cons]

/-- Commands on lines of their own. -/
theorem splitCommands_lines (indent : Text) (blank : indent.isBlank = true) {commands : List Text}
    (h : ∀ c ∈ commands, IsCommand c) :
    splitCommands (Text.joinLines ([] :: commands.map (indent ++ ·) ++ [[]])) = commands := by
  rw [splitCommands_joinLines, List.cons_append, List.flatMap_cons, List.flatMap_append,
    List.flatMap_singleton, splitCommands_nil, List.nil_append, List.append_nil]
  induction commands with
  | nil => rfl
  | cons c rest ih =>
    obtain ⟨command, others⟩ := List.forall_mem_cons.mp h
    rw [List.map_cons, List.flatMap_cons, splitCommands_blank_append blank, command.splitCommands,
      ih others]
    rfl

/-! ## What can be read -/

/-- A body is one command, or a block in brackets that holds one. -/
theorem readBody_eq_ok {name body : Text} {d : Definition} (h : readBody name body = .ok d) :
    (body ≠ [] ∧ body.head? ≠ some '[' ∧ d = ⟨name, [body], true⟩) ∨
    ∃ inside, body = '[' :: inside ++ [']'] ∧ splitCommands inside ≠ [] ∧
      d = ⟨name, splitCommands inside, false⟩ := by
  unfold readBody at h
  split at h
  · cases h
  · rename_i rest
    split at h
    · rename_i closed
      obtain ⟨inside, rfl⟩ := List.getLast?_eq_some_iff.mp closed
      rw [List.dropLast_concat] at h
      split at h
      · cases h
      · rename_i filled
        exact Or.inr ⟨inside, rfl, filled, (Except.ok.inj h).symm⟩
    · cases h
  · rename_i nonempty other
    refine Or.inl ⟨nonempty, ?_, (Except.ok.inj h).symm⟩
    intro opening
    obtain ⟨rest, rfl⟩ := List.head?_eq_some_iff.mp opening
    exact other rest rfl

theorem readBody_single {name command : Text} (nonempty : command ≠ [])
    (other : command.head? ≠ some '[') :
    readBody name command = .ok ⟨name, [command], true⟩ := by
  unfold readBody
  split
  · exact absurd rfl nonempty
  · exact absurd rfl other
  · rfl

theorem readBody_block {name inside : Text} {commands : List Text}
    (h : splitCommands inside = commands) (filled : commands ≠ []) :
    readBody name ('[' :: inside ++ [']']) = .ok ⟨name, commands, false⟩ := by
  rw [List.cons_append, readBody, if_pos List.getLast?_concat, List.dropLast_concat, h]
  cases commands with
  | nil => exact absurd rfl filled
  | cons => rfl

theorem dropKeyword?_isSuffix {t rest : Text} (h : dropKeyword? t = some rest) : rest <:+ t := by
  unfold dropKeyword? at h
  split at h
  · rename_i d e f c rest
    split at h
    · obtain rfl := Option.some.inj h
      exact ⟨[d, e, f], rfl⟩
    · cases h
  · cases h

theorem read_trim (source : Text) : read source.trim = read source := by
  rw [read, Text.trim_trim, ← read]

/-- The name in front of an arrow, with or without the keyword. -/
def nameBefore (front : Text) : Text :=
  Text.trim ((dropKeyword? front.trimLeft).getD front.trimLeft)

theorem dropKeyword?_of_mem {t : Text} (h : '=' ∈ t.take 4) : dropKeyword? t = none := by
  unfold dropKeyword?
  split
  · rename_i d e f c rest
    split
    · rename_i keyword
      have solid : isSpace '=' = false := by decide
      have among : '=' = d ∨ '=' = e ∨ '=' = f ∨ '=' = c := by simpa using h
      rcases among with rfl | rfl | rfl | rfl <;> simp [solid] at keyword
    · rfl
  · rfl

/-- An arrow is not part of the keyword in front of it. -/
theorem dropKeyword?_append_arrow (front rest : Text) :
    dropKeyword? (front ++ '=' :: rest) = (dropKeyword? front).map (· ++ '=' :: rest) := by
  match front with
  | [] | [_] | [_, _] | [_, _, _] => exact dropKeyword?_of_mem (by simp)
  | d :: e :: f :: c :: front =>
    simp only [dropKeyword?, List.cons_append]
    split <;> rfl

theorem trim_arrow (u v : Text) :
    Text.trim (u ++ '=' :: '>' :: v) = u.trimLeft ++ '=' :: '>' :: v.trimRight := by
  have marks : isSpace '=' = false ∧ isSpace '>' = false := by decide
  rw [Text.trim, Text.trimLeft_append_solid marks.1, Text.trimRight_append_solid marks.1]
  exact congrArg (_ ++ '=' :: ·) (Text.trimRight_append_solid marks.2 [] v)

/-- **Reading at the first arrow.** The name is what stands in front of it. -/
theorem read_arrow {front : Text} (plain : ¬ front.HasArrow) (body : Text) :
    read (front ++ '=' :: '>' :: body) =
      if nameBefore front = [] then .error .noName else readBody (nameBefore front) body.trim := by
  have cut {u : Text} (part : u <:+ front) (v : Text) :
      Text.cutArrow? (u ++ '=' :: '>' :: v) = some (u, v) :=
    Text.cutArrow?_append (fun arrow => plain (arrow.trans part.isInfix)) v
  have start := front.trimLeft_isSuffix
  unfold read
  rw [trim_arrow, dropKeyword?_append_arrow]
  cases keyword : dropKeyword? front.trimLeft with
  | none =>
    simp only [nameBefore, keyword, Option.map_none, Option.getD_none, cut start,
      ← Text.trim_eq_nil_iff, Text.trim_trimRight]
  | some rest =>
    have part : rest.trimLeft <:+ front :=
      rest.trimLeft_isSuffix.trans ((dropKeyword?_isSuffix keyword).trans start)
    simp only [nameBefore, keyword, Option.map_some, Option.getD_some, trim_arrow, cut part,
      ← Text.trim_eq_nil_iff, Text.trim_trimLeft, Text.trim_trimRight]

/-- What is read is a name and a body around the first arrow of a part of the source. -/
theorem read_eq_ok {source : Text} {d : Definition} (h : read source = .ok d) :
    ∃ before after : Text, before ++ '=' :: '>' :: after <:+: source ∧ ¬ before.HasArrow ∧
      before.isBlank = false ∧ readBody before.trim after.trim = .ok d := by
  have part : ((dropKeyword? source.trim).map Text.trim).getD source.trim <:+: source := by
    cases keyword : dropKeyword? source.trim with
    | none => exact source.trim_isInfix
    | some rest =>
      exact rest.trim_isInfix.trans
        ((dropKeyword?_isSuffix keyword).isInfix.trans source.trim_isInfix)
  unfold read at h
  simp only at h
  split at h
  · cases h
  · rename_i before after cut
    obtain ⟨whole, noArrow⟩ := Text.cutArrow?_eq_some cut
    split at h
    · cases h
    · rename_i solid
      exact ⟨before, after, whole ▸ part, noArrow, Bool.eq_false_iff.mpr solid, h⟩

/-! ## Proper form -/

/-- A name that can be told from the rest of a definition: not empty, without space around it, and
without an arrow. -/
structure IsName (name : Text) : Prop where
  nonempty : name ≠ []
  trimmed : name.trim = name
  noArrow : ¬ name.HasArrow

/-- A single command must not look like a block; a block must have commands, and each of them must
fit on a line of it. -/
inductive Proper : Definition → Prop
  | single {name command : Text} : IsName name → command ≠ [] → command.trim = command →
      command.head? ≠ some '[' → Proper ⟨name, [command], true⟩
  | block {name : Text} {commands : List Text} : IsName name → commands ≠ [] →
      (∀ c ∈ commands, IsCommand c) → Proper ⟨name, commands, false⟩

theorem Proper.isName {d : Definition} (h : d.Proper) : IsName d.name := by
  cases h with
  | single named => exact named
  | block named => exact named

theorem Proper.commands {d : Definition} (h : d.Proper) :
    d.commands ≠ [] ∧ ∀ c ∈ d.commands, c.isBlank = false := by
  have solid {c : Text} (nonempty : c ≠ []) (trimmed : c.trim = c) : c.isBlank = false := by
    rw [Bool.eq_false_iff, Ne, ← Text.trim_eq_nil_iff, trimmed]
    exact nonempty
  cases h with
  | single _ nonempty trimmed =>
    exact ⟨List.cons_ne_nil _ _, List.forall_mem_singleton.mpr (solid nonempty trimmed)⟩
  | block _ filled proper =>
    exact ⟨filled, fun c mem => solid (proper c mem).nonempty (proper c mem).trimmed⟩

/-- **Definitions are read in proper form.** -/
theorem proper_of_read {source : Text} {d : Definition} (h : read source = .ok d) : d.Proper := by
  obtain ⟨before, after, -, noArrow, solid, body⟩ := read_eq_ok h
  have named : IsName before.trim := by
    refine ⟨fun nil => ?_, before.trim_trim, fun arrow => noArrow arrow.of_trim⟩
    rw [Text.trim_eq_nil_iff.mp nil] at solid
    cases solid
  rcases readBody_eq_ok body with ⟨nonempty, other, rfl⟩ | ⟨inside, -, filled, rfl⟩
  · exact .single named nonempty after.trim_trim other
  · exact .block named filled fun c mem => (isCommand_of_mem mem).1

/-- The commands of a definition stand in its source as they are. -/
theorem commands_isInfix {source : Text} {d : Definition} (h : read source = .ok d) :
    ∀ c ∈ d.commands, c <:+: source := by
  obtain ⟨before, after, part, -, -, body⟩ := read_eq_ok h
  have within : after.trim <:+: source := by
    refine after.trim_isInfix.trans (List.IsInfix.trans ?_ part)
    exact ⟨before ++ ['=', '>'], [], by simp⟩
  intro c mem
  rcases readBody_eq_ok body with ⟨-, -, rfl⟩ | ⟨inside, bracketed, -, rfl⟩
  · rwa [List.mem_singleton.mp mem]
  · rw [bracketed] at within
    exact (isCommand_of_mem mem).2.trans (List.IsInfix.trans ⟨['['], [']'], rfl⟩ within)

theorem isDefinition_def (rest : Text) : isDefinition ("def ".toList ++ rest) = true := rfl

theorem trim_keyword (name : Text) {body : Text} (nonempty : body ≠ [])
    (trimmed : body.trim = body) :
    Text.trim ("def ".toList ++ (name ++ " => ".toList ++ body)) =
      "def ".toList ++ (name ++ " => ".toList ++ body) := by
  have keyword : Text.trim "def".toList = "def".toList := by decide
  simpa using Text.trim_enclosed keyword trimmed (by decide) nonempty (' ' :: name ++ " => ".toList)

/-- **Reading behind the keyword.** The name ends at the arrow that is written behind it. -/
theorem read_keyword {name body : Text} (named : IsName name) (trimmed : body.trim = body) :
    read ("def ".toList ++ (name ++ " => ".toList ++ body)) = readBody name body := by
  have plain : ¬ Text.HasArrow ("def ".toList ++ name ++ [' ']) := by
    rw [Text.hasArrow_append_singleton (by decide), Text.hasArrow_append_of_notMem (by decide)]
    exact named.noArrow
  have before : nameBefore ("def ".toList ++ name ++ [' ']) = name := by
    have keyword : nameBefore ("def ".toList ++ name ++ [' ']) = Text.trim (' ' :: name ++ [' ']) :=
      rfl
    rw [keyword, Text.trim_append_space (by decide), Text.trim_cons_space (by decide),
      named.trimmed]
  have source : "def ".toList ++ (name ++ " => ".toList ++ body) =
      "def ".toList ++ name ++ [' '] ++ '=' :: '>' :: ' ' :: body := by simp
  rw [source, read_arrow plain, before, if_neg named.nonempty, Text.trim_cons_space (by decide),
    trimmed]

theorem trim_block (inside : Text) :
    Text.trim ('[' :: inside ++ [']']) = '[' :: inside ++ [']'] := by
  have opening : Text.trim ['['] = ['['] := by decide
  have closing : Text.trim [']'] = [']'] := by decide
  exact Text.trim_enclosed opening closing (by decide) (by decide) inside

/-- Reading a block of commands, which may stand on one line or on several. -/
theorem read_block {name inside : Text} {commands : List Text} (named : IsName name)
    (h : splitCommands inside = commands) (filled : commands ≠ []) :
    read ("def ".toList ++ (name ++ " => ".toList ++ ('[' :: inside ++ [']']))) =
      .ok ⟨name, commands, false⟩ := by
  rw [read_keyword named (trim_block inside), readBody_block h filled]

/-- A definition in proper form is shown as its name and a body that is read back. -/
theorem Proper.display {d : Definition} (h : d.Proper) :
    ∃ body, d.display? = some (d.name ++ " => ".toList ++ body) ∧ body ≠ [] ∧ body.trim = body ∧
      readBody d.name body = .ok d := by
  cases h with
  | @single name command _ nonempty trimmed other =>
    exact ⟨command, rfl, nonempty, trimmed, readBody_single nonempty other⟩
  | @block name commands _ filled proper =>
    refine ⟨'[' :: Text.joinLines ([] :: commands.map ("  ".toList ++ ·) ++ [[]]) ++ [']'], ?_, ?_⟩
    · rw [← Text.joinLines_block]
      rfl
    · have lines := splitCommands_lines "  ".toList (by decide) proper
      exact ⟨List.cons_ne_nil _ _, trim_block _, readBody_block lines filled⟩

/-- **Definitions in proper form are read as they are shown.** -/
theorem Proper.read_display {d : Definition} (h : d.Proper) :
    ∃ text, d.display? = some text ∧ read ("def ".toList ++ text) = .ok d := by
  obtain ⟨body, shown, nonempty, trimmed, body_read⟩ := h.display
  exact ⟨_, shown, by rw [read_keyword h.isName trimmed, body_read]⟩

end Definition
end MacroShell
