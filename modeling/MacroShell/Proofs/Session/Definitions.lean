import MacroShell.Proofs.Function.OrderedMap
import MacroShell.Proofs.Session.Invocation

/-!
# Lines that define functions

A definition has an arrow. No name of a function has one, and neither have the words that end a
session, so that a definition is never taken for anything else.
-/

namespace MacroShell

theorem FunctionTable.get?_of_hasArrow {t : FunctionTable}
    (plain : ∀ d ∈ t.definitions, ¬ d.name.HasArrow) {name : Text} (h : name.trim.HasArrow) :
    t.get? name = none := by
  rw [get?]
  split
  · rfl
  · rw [List.find?_eq_none]
    intro d mem same
    have key : d.key = name.trim.lower := by simpa using same
    apply plain d mem
    rwa [← Text.hasArrow_lower_iff, show d.name.lower = name.trim.lower from key,
      Text.hasArrow_lower_iff]

namespace Session

variable {world : World} {settings : Settings}

theorem isExit_of_hasArrow {line : Text} (h : line.HasArrow) : isExit line = false := by
  have small : line.lower.HasArrow := Text.hasArrow_lower_iff.mpr h
  rw [← Bool.not_eq_true, isExit, Bool.or_eq_true, decide_eq_true_eq, decide_eq_true_eq]
  rintro (exit | quit)
  · rw [exit] at small
    exact absurd small (by decide)
  · rw [quit] at small
    exact absurd small (by decide)

theorem reading_of_hasArrow {s : Session} (plain : ∀ d ∈ s.functions.definitions, ¬ d.name.HasArrow)
    {line : Text} (h : line.trim.HasArrow) (depth : Nat) : reading depth line s = .leaf := by
  have solid : line.isBlank = false := by
    rw [Bool.eq_false_iff, Ne, ← Text.trim_eq_nil_iff]
    intro nil
    rw [nil] at h
    exact Text.not_hasArrow_nil h
  have trimmed : line.trim.trim.HasArrow := by rwa [line.trim_trim]
  simp only [reading, solid, isExit_of_hasArrow h, FunctionTable.get?_of_hasArrow plain trimmed,
    Bool.and_false, Bool.false_eq_true, ↓reduceIte]

/-- **A definition line is stored or refused.** It is not looked up, expanded or handed on. -/
theorem dispatch_store {s : Session} (plain : ∀ d ∈ s.functions.definitions, ¬ d.name.HasArrow)
    {line : Text} (keyword : Definition.isDefinition line.trim = true) (arrow : line.trim.HasArrow)
    (room depth : Nat) :
    dispatch world settings room depth line s =
      conclude (.ok (Builtin.store line.trim s).1, (Builtin.store line.trim s).2) := by
  rw [dispatch_eq, reading_of_hasArrow plain arrow]
  simp only [leaf, runLeaf, keyword, ↓reduceIte]

theorem store_ok {source : Text} {d : Definition} (h : Definition.read source = .ok d)
    (s : Session) :
    Builtin.store source s =
      (⟨"Function '".toList ++ d.name ++ "' defined".toList, 0⟩,
        { s with functions := s.functions.define d }) := by
  rw [Builtin.store, FunctionTable.defineFrom, h]
  rfl

theorem store_error {source : Text} {e : DefinitionError} (h : Definition.read source = .error e)
    (s : Session) : Builtin.store source s = (⟨"Error: ".toList ++ e.message, 1⟩, s) := by
  rw [Builtin.store, FunctionTable.defineFrom, h]
  rfl

theorem reachable_proper {s : Session} (h : Reachable s) :
    ∀ d ∈ s.functions.definitions, d.Proper := by
  refine reachable_table (P := fun t => ∀ d ∈ t.definitions, d.Proper) ?_ ?_ nofun h
  · intro t source d read proper e mem
    rcases FunctionTable.mem_insert mem with rfl | old
    · exact Definition.proper_of_read read
    · exact proper e old
  · intro t name proper e mem
    exact proper e (List.mem_of_mem_filter mem)

theorem reachable_noArrow {s : Session} (h : Reachable s) :
    ∀ d ∈ s.functions.definitions, ¬ d.name.HasArrow :=
  fun d mem => (reachable_proper h d mem).isName.noArrow

/-- **A definition line changes the table, or nothing.** Whatever surrounds the session, and so
whatever the time, a line that can be read is answered with the name; the function is found by that
name afterwards, with commands that stand in the line as they are, and every other name means what
it meant before. A line that cannot be read is answered with the reason. All else but the exit
status stays as it is. -/
theorem dispatch_definition {s : Session} (reach : Reachable s) {line : Text}
    (keyword : Definition.isDefinition line.trim = true) (arrow : line.trim.HasArrow) :
    (∀ d, Definition.read line.trim = .ok d →
      (∀ world settings room depth, dispatch world settings room depth line s =
        (.ok (some ("Function '".toList ++ d.name ++ "' defined".toList)),
          { s with functions := s.functions.define d, exitCode := 0 })) ∧
      (∀ name, (s.functions.define d).get? name =
        if name.trim.lower = d.name.lower then some d else s.functions.get? name) ∧
      ∀ c ∈ d.commands, c <:+: line) ∧
    ∀ e, Definition.read line.trim = .error e →
      ∀ world settings room depth, dispatch world settings room depth line s =
        (.ok (some ("Error: ".toList ++ e.message)), { s with exitCode := 1 }) := by
  have plain := reachable_noArrow reach
  constructor
  · intro d read
    refine ⟨fun world settings room depth => ?_, ?_, ?_⟩
    · rw [dispatch_store plain keyword arrow, store_ok read]
      rfl
    · exact (reachable_wellFormed reach).get?_define (Definition.read_named read)
    · rw [Definition.read_trim] at read
      exact Definition.commands_isInfix read
  · intro e read world settings room depth
    rw [dispatch_store plain keyword arrow, store_error read]
    rfl

/-- A function is replaced from inside three calls, in other letters, by a line with a span; a block
that is not closed replaces nothing. -/
theorem dispatch_definition_span :
    let s : Session := ⟨['/'], 0, ⟨[⟨['f'], [['a']], true⟩]⟩, []⟩
    let d : Definition := ⟨['F'], ["echo $[@:gettime(now)]".toList], true⟩
    let line : Text := " DEF F => echo $[@:gettime(now)] ".toList
    let unclosed : Text := "def F => [ a ; b".toList
    Reachable s ∧
      dispatch .quiet {} 0 3 line s =
        (.ok (some "Function 'F' defined".toList), ⟨['/'], 0, ⟨[d]⟩, []⟩) ∧
      dispatch .quiet {} 0 3 unclosed s =
        (.ok (some "Error: multi-line body must end with ']'".toList), { s with exitCode := 1 }) := by
  intro s d line unclosed
  have entered : (execute .quiet {} "def f => a".toList (.start ['/'])).2 = s := by decide +kernel
  have reach : Reachable s := entered ▸ .execute .quiet {} _ (.start ['/'])
  have read : Definition.read line.trim = .ok d := by decide +kernel
  have refused : Definition.read unclosed.trim = .error .noClosingBracket := by decide +kernel
  have table : s.functions.define d = ⟨[d]⟩ := by decide +kernel
  obtain ⟨stored, -, -⟩ := (dispatch_definition reach (by decide) (by decide)).1 d read
  have kept := (dispatch_definition reach (by decide) (by decide)).2 _ refused
  rw [table] at stored
  exact ⟨reach, stored .quiet {} 0 3, kept .quiet {} 0 3⟩

/-! ## Listings -/

/-- A function that is defined as it is shown stays as it is. -/
theorem execute_display {s : Session} (reach : Reachable s) {d : Definition}
    (mem : d ∈ s.functions.definitions) {entry : Text} (shown : d.display? = some entry)
    (world : World) (settings : Settings) :
    execute world settings ("def ".toList ++ entry) s =
      (some ("Function '".toList ++ d.name ++ "' defined".toList), { s with exitCode := 0 }) := by
  have proper := reachable_proper reach d mem
  obtain ⟨body, same, nonempty, trimmed, body_read⟩ := proper.display
  obtain rfl : d.name ++ " => ".toList ++ body = entry := Option.some.inj (same.symm.trans shown)
  have whole := Definition.trim_keyword d.name nonempty trimmed
  have read := (Definition.read_keyword proper.isName trimmed).trans body_read
  have arrow : Text.HasArrow ("def ".toList ++ (d.name ++ " => ".toList ++ body)) :=
    ⟨"def ".toList ++ d.name ++ [' '], ' ' :: body, by simp⟩
  have keyword := Definition.isDefinition_def (d.name ++ " => ".toList ++ body)
  rw [← whole] at read arrow keyword
  rw [execute, runAt, dispatch_store (reachable_noArrow reach) keyword arrow, store_ok read,
    (reachable_wellFormed reach).define_of_mem mem]
  rfl

theorem mapM_of_forall {α β : Type} {f : α → Option β} {as : List α}
    (h : ∀ a ∈ as, ∃ b, f a = some b) :
    ∃ bs : List β, as.map f = bs.map some ∧ as.mapM f = some bs := by
  induction as with
  | nil => exact ⟨[], rfl, rfl⟩
  | cons a rest ih =>
    obtain ⟨⟨b, here⟩, others⟩ := List.forall_mem_cons.mp h
    obtain ⟨bs, each, all⟩ := ih others
    exact ⟨b :: bs, by simp [here, each], by simp [here, all]⟩

/-- **What is shown of a function can be entered again.** Behind the keyword it is read as the
function itself. A listing shows each function of a session in that form; entering an entry again
defines the same function in the same place. -/
theorem listing_reads_back :
    (∀ source d, Definition.read source = .ok d →
      ∃ text, d.display? = some text ∧ Definition.read ("def ".toList ++ text) = .ok d) ∧
    ∀ s, Reachable s → ∃ entries : List Text,
      s.functions.definitions.map Definition.display? = entries.map some ∧
      (s.functions.definitions ≠ [] → s.functions.listing? = some (Text.joinLines
        ("Defined functions:".toList :: List.replicate 60 '═' :: entries))) ∧
      ∀ d ∈ s.functions.definitions, ∀ entry, d.display? = some entry →
        ∀ world settings, execute world settings ("def ".toList ++ entry) s =
          (some ("Function '".toList ++ d.name ++ "' defined".toList), { s with exitCode := 0 }) := by
  constructor
  · intro source d read
    exact (Definition.proper_of_read read).read_display
  · intro s reach
    have shown : ∀ d ∈ s.functions.definitions, ∃ entry, d.display? = some entry := by
      intro d mem
      obtain ⟨entry, here, -⟩ := (reachable_proper reach d mem).read_display
      exact ⟨entry, here⟩
    obtain ⟨entries, each, all⟩ := mapM_of_forall shown
    refine ⟨entries, each, fun filled => ?_, fun d mem entry here world settings => ?_⟩
    · have some_functions : s.functions.definitions.isEmpty = false := by simpa using filled
      simp only [FunctionTable.listing?, some_functions, all, Option.map_some, Bool.false_eq_true,
        ↓reduceIte]
    · exact execute_display reach mem here world settings

/-- A name that ends as an arrow begins, and commands between separators of all kinds. -/
theorem listing_reads_back_block :
    let source : Text := "DEF def a= => [;echo $[Number:-1 => Number.Abs] ; \r\n b ]".toList
    let d : Definition :=
      ⟨"def a=".toList, ["echo $[Number:-1 => Number.Abs]".toList, ['b']], false⟩
    let entry : Text := "def a= => [\n  echo $[Number:-1 => Number.Abs]\n  b\n]".toList
    let s : Session := ⟨['/'], 0, ⟨[d]⟩, []⟩
    Definition.read source = .ok d ∧ Reachable s ∧ d.display? = some entry ∧
      Definition.read ("def ".toList ++ entry) = .ok d ∧
      s.functions.listing? = some (Text.joinLines
        ["Defined functions:".toList, List.replicate 60 '═', entry]) ∧
      execute .quiet {} ("def ".toList ++ entry) s =
        (some "Function 'def a=' defined".toList, s) := by
  intro source d entry s
  have read : Definition.read source = .ok d := by decide +kernel
  have entered : (execute .quiet {} source (.start ['/'])).2 = s := by decide +kernel
  have reach : Reachable s := entered ▸ .execute .quiet {} source (.start ['/'])
  have shown : d.display? = some entry := by decide +kernel
  obtain ⟨text, same, again⟩ := listing_reads_back.1 source d read
  obtain rfl : entry = text := Option.some.inj (shown.symm.trans same)
  obtain ⟨entries, each, listing, reentered⟩ := listing_reads_back.2 s reach
  obtain rfl : entries = [entry] := by
    have one : [d].map Definition.display? = [some entry] := by rw [List.map_singleton, shown]
    simpa using each.symm.trans one
  exact ⟨read, reach, shown, again, listing (List.cons_ne_nil d []),
    reentered d List.mem_cons_self entry shown .quiet {}⟩

end Session
end MacroShell
