import MacroShell.Proofs.Function.OrderedMap
import MacroShell.Proofs.Language.Expansion
import MacroShell.Proofs.Session.Command
import MacroShell.Proofs.Session.Invocation

/-!
# Deleting by name

The command for deleting takes the first of its words as a name, whereas a name may consist of
several: all that stands before the arrow of a definition.
-/

namespace MacroShell
namespace Session

variable {world : World} {settings : Settings}

/-! ## The command line -/

theorem words_delfunc (name : Text) :
    Text.words ("delfunc ".toList ++ name) = "delfunc".toList :: name.words := by
  have keyword : Text.words "delfunc".toList = ["delfunc".toList] := by decide
  have apart : Text.words ("delfunc".toList ++ ' ' :: name) = _ :=
    Text.words_append_cons_space (by decide) "delfunc".toList name
  rw [keyword] at apart
  exact apart

theorem not_isExit_delfunc (name : Text) : isExit ("delfunc ".toList ++ name) = false := by
  have kept : 'f' ∈ Text.lower ("delfunc ".toList ++ name) :=
    Text.mem_lower (by decide) (by decide) (by simp)
  rw [← Bool.not_eq_true, isExit, Bool.or_eq_true, decide_eq_true_eq, decide_eq_true_eq]
  rintro (exit | quit)
  · rw [exit] at kept
    exact absurd kept (by decide)
  · rw [quit] at kept
    exact absurd kept (by decide)

theorem not_isDefinition_delfunc (name : Text) :
    Definition.isDefinition ("delfunc ".toList ++ name) = false := by
  have solid : isSpace 'd' = false := by decide
  have front : Text.trimLeft ("delfunc ".toList ++ name) = "delfunc ".toList ++ name := by
    simp [Text.trimLeft, solid]
  rw [Definition.isDefinition, front]
  rfl

section
variable {name : Text}

theorem trim_delfunc (nonempty : name ≠ []) (trimmed : name.trim = name) :
    Text.trim ("delfunc ".toList ++ name) = "delfunc ".toList ++ name := by
  have whole : Text.trim ("delfunc".toList ++ [' '] ++ name) = _ :=
    Text.trim_enclosed (by decide) trimmed (by decide) nonempty [' ']
  exact whole

/-- Nothing is expanded in the command line, if no span starts in the name. -/
theorem expand_delfunc (plain : ¬ "$[".toList <:+: name) (now : Moment) :
    Line.expand now ("delfunc ".toList ++ name) = "delfunc ".toList ++ name := by
  have noDollar : '$' ∉ "delfunc ".toList := by decide
  rw [Line.expand_append (fun c mem same => noDollar (same ▸ mem)), Line.expand_eq_self plain]

/-- The command line is carried out as the command that deletes, and its arguments are the words of
the name. -/
theorem runLeaf_delfunc (world : World) (settings : Settings) (nonempty : name ≠ [])
    (trimmed : name.trim = name) (plain : ¬ "$[".toList <:+: name) (s : Session) :
    ∃ c : Command, c.arguments = name.firstWord :: name.afterWord.words ∧
      runLeaf world settings ("delfunc ".toList ++ name) s =
        (.ok (Builtin.delete c s).1, (Builtin.delete c s).2) := by
  have words := words_delfunc name
  rw [Text.words_eq_cons nonempty trimmed] at words
  have called : (Command.read ("delfunc ".toList ++ name)).name = "delfunc".toList := by
    rw [Command.read_of_words words]
  have found : Builtin.ofKeyword? (Command.read ("delfunc ".toList ++ name)).keyword =
      some .deleteFunction := by
    rw [Command.keyword, called]
    decide
  refine ⟨Command.read ("delfunc ".toList ++ name), by rw [Command.read_of_words words], ?_⟩
  simp only [runLeaf, not_isDefinition_delfunc, expand_delfunc plain, runCommand, called, found,
    Builtin.run]
  rfl

theorem reading_delfunc {s : Session} (nonempty : name ≠ []) (trimmed : name.trim = name)
    (free : s.functions.get? ("delfunc ".toList ++ name) = none) :
    reading 0 ("delfunc ".toList ++ name) s = .leaf := by
  have whole := trim_delfunc nonempty trimmed
  have solid : Text.isBlank ("delfunc ".toList ++ name) = false := by
    rw [← Bool.not_eq_true, ← Text.trim_eq_nil_iff, whole]
    nofun
  simp only [reading, solid, whole, not_isExit_delfunc, free, Bool.and_false, Bool.false_eq_true,
    ↓reduceIte]

/-- **The first word of a name decides** what is deleted by it. -/
theorem execute_delfunc {s : Session} (nonempty : name ≠ []) (trimmed : name.trim = name)
    (plain : ¬ "$[".toList <:+: name) (free : s.functions.get? ("delfunc ".toList ++ name) = none) :
    execute world settings ("delfunc ".toList ++ name) s =
      if (s.functions.delete name.firstWord).1 then
        (some ("Function '".toList ++ name.firstWord ++ "' deleted".toList),
          { s with functions := (s.functions.delete name.firstWord).2, exitCode := 0 })
      else (some ("Function '".toList ++ name.firstWord ++ "' does not exist".toList),
        { s with exitCode := 1 }) := by
  obtain ⟨c, arguments, ran⟩ := runLeaf_delfunc world settings nonempty trimmed plain s
  rw [execute, runAt, dispatch_eq, reading_delfunc nonempty trimmed free]
  simp only [leaf, trim_delfunc nonempty trimmed, ran, Builtin.delete, arguments]
  cases deleted : s.functions.delete name.firstWord with
  | mk found functions => cases found <;> rfl

end

/-! ## Functions -/

/-- **A function can be deleted by its name if that is one word.** Then it is the one that goes, and
the others stay in their order. A name of several words names the function that has the first word
for a name: if there is one it goes instead, and if not the command is refused. -/
theorem execute_delfunc_name (world : World) (settings : Settings) {s : Session}
    (reach : Reachable s) {before after : List Definition} {f : Definition}
    (split : s.functions.definitions = before ++ f :: after) (plain : ¬ "$[".toList <:+: f.name)
    (free : s.functions.get? ("delfunc ".toList ++ f.name) = none) :
    let run := execute world settings ("delfunc ".toList ++ f.name) s
    ((∀ c ∈ f.name, isSpace c = false) →
      run = (some ("Function '".toList ++ f.name ++ "' deleted".toList),
        { s with functions := ⟨before ++ after⟩, exitCode := 0 })) ∧
    ((∃ c ∈ f.name, isSpace c = true) →
      f ∈ run.2.functions.definitions ∧
      (s.functions.get? f.name.firstWord = none →
        run = (some ("Function '".toList ++ f.name.firstWord ++ "' does not exist".toList),
          { s with exitCode := 1 })) ∧
      ∀ before' g after', s.functions.definitions = before' ++ g :: after' →
        g.key = f.name.firstWord.lower →
        run = (some ("Function '".toList ++ f.name.firstWord ++ "' deleted".toList),
          { s with functions := ⟨before' ++ after'⟩, exitCode := 0 })) := by
  intro run
  have table := reachable_wellFormed reach
  have mem : f ∈ s.functions.definitions := by simp [split]
  obtain ⟨nonempty, trimmed⟩ := table.named f mem
  have ran : run = _ := execute_delfunc nonempty trimmed plain free
  have word : f.name.firstWord.trim = f.name.firstWord :=
    Text.trim_eq_self fun _ => Text.isSpace_of_mem_firstWord
  constructor
  · intro single
    rw [Text.firstWord_eq_self single, table.delete_split split (by rw [trimmed]; rfl)] at ran
    exact ran
  · rintro ⟨c, inside, space⟩
    have more : f.name.afterWord ≠ [] := by
      intro nil
      have same := f.name.firstWord_append_afterWord
      rw [nil, List.append_nil] at same
      rw [← same] at inside
      rw [Text.isSpace_of_mem_firstWord inside] at space
      cases space
    -- Small letters keep lengths apart, so that the first word cannot name the function itself.
    have other : f.key ≠ f.name.firstWord.trim.lower := by
      rw [word, Definition.key]
      conv_lhs => rw [← f.name.firstWord_append_afterWord]
      exact Text.lower_append_ne more
    refine ⟨?_, ?_, ?_⟩
    · rw [ran]
      split
      · exact FunctionTable.mem_delete mem other
      · exact mem
    · intro absent
      rw [ran, table.delete_absent absent, if_neg Bool.false_ne_true]
    · intro before' g after' there same
      rw [ran, table.delete_split there (by rw [word, same])]
      rfl

/-- Of two functions, one has the first word of the other for a name. -/
theorem execute_delfunc_name_words :
    let f : Definition := ⟨"My Func".toList, [['x']], true⟩
    let g : Definition := ⟨['M', 'Y'], [['y']], true⟩
    let s : Session := ⟨['/'], 0, ⟨[f, g]⟩, []⟩
    Reachable s ∧
      execute .quiet {} "delfunc MY".toList s =
        (some "Function 'MY' deleted".toList, { s with functions := ⟨[f]⟩ }) ∧
      execute .quiet {} "delfunc My Func".toList s =
        (some "Function 'My' deleted".toList, { s with functions := ⟨[f]⟩ }) := by
  intro f g s
  have first := Reachable.execute .quiet {} "def My Func => x".toList (.start ['/'])
  have second := Reachable.execute .quiet {} "def MY => y".toList first
  have entered : (execute .quiet {} "def MY => y".toList
      (execute .quiet {} "def My Func => x".toList (.start ['/'])).2).2 = s := by decide +kernel
  have reach : Reachable s := entered ▸ second
  have last : s.functions.definitions = [f] ++ g :: [] := rfl
  have head : s.functions.definitions = [] ++ f :: [g] := rfl
  have one := execute_delfunc_name .quiet {} reach last (by decide +kernel) (by decide +kernel)
  have two := execute_delfunc_name .quiet {} reach head (by decide +kernel) (by decide +kernel)
  have word : ∀ c ∈ g.name, isSpace c = false := Text.solid_of_all (by decide)
  have words : ∃ c ∈ f.name, isSpace c = true := ⟨' ', by decide +kernel, by decide⟩
  exact ⟨reach, one.1 word, (two.2 words).2.2 [f] g [] last (by decide +kernel)⟩

/-- A function whose name is two words is not deleted by it. -/
theorem execute_delfunc_twoWords :
    let f : Definition := ⟨"my func".toList, ["echo hi".toList], true⟩
    let s : Session := (execute .quiet {} "def my func => echo hi".toList (.start ['/'])).2
    s.functions.definitions = [f] ∧ s.functions.get? "delfunc my func".toList = none ∧
      execute .quiet {} "delfunc my func".toList s =
        (some "Function 'my' does not exist".toList, { s with exitCode := 1 }) := by
  decide +kernel

end Session
end MacroShell
