import Mathlib.Data.List.ReduceOption
import MacroShell.Proofs.Session.Console
import MacroShell.Proofs.Session.Invocation

/-!
# A block that is open at the end

A script and an interactive session run the same logical lines. They differ in what becomes of the
lines that still wait at the end of the input: a script reports them, and the console passes over
them in silence. Neither counts them as a definition that has failed.
-/

namespace MacroShell
namespace Block

/-- The logical lines that lines make up after an open block, or none. -/
def logical (b : Block) (lines : List Text) : List Text := (b.feedAll lines).1.reduceOption

theorem feedAll_append (b : Block) (first others : List Text) :
    b.feedAll (first ++ others) =
      ((b.feedAll first).1 ++ ((b.feedAll first).2.feedAll others).1,
        ((b.feedAll first).2.feedAll others).2) := by
  induction first generalizing b with
  | nil => rfl
  | cons line rest ih => simp [feedAll, ih]

section
variable {b after : Block} {line : Text}

theorem feedAll_cons {answer : Option Text} (fed : b.feed line = (answer, after))
    (rest : List Text) :
    b.feedAll (line :: rest) = (answer :: (after.feedAll rest).1, (after.feedAll rest).2) := by
  rw [feedAll, fed]

theorem logical_cons_held (fed : b.feed line = (Option.none, after)) (rest : List Text) :
    b.logical (line :: rest) = after.logical rest := by
  rw [logical, feedAll_cons fed, List.reduceOption_cons_of_none]
  rfl

theorem logical_cons_answered {answer : Text} (fed : b.feed line = (some answer, after))
    (rest : List Text) : b.logical (line :: rest) = answer :: after.logical rest := by
  rw [logical, feedAll_cons fed, List.reduceOption_cons_of_some]
  rfl

end

/-- **The lines that wait are the last ones.** Those before them make up the logical lines. -/
theorem exists_held (lines : List Text) :
    ∃ before held, lines = before ++ held ∧ (none.feedAll before).2 = none ∧
      held.map Text.trim = (none.feedAll lines).2.lines ∧
      none.logical before = none.logical lines := by
  induction lines using List.reverseRecOn with
  | nil => exact ⟨[], [], rfl, rfl, rfl, rfl⟩
  | append_singleton lines line ih =>
    obtain ⟨before, held, parts, closed, waiting, same⟩ := ih
    have whole := feedAll_append none lines [line]
    -- Either the last line waits behind the others, or it settles all of them.
    rcases (feedAll_groups valid_none lines).1.feed line with ⟨after, fed, -, grown⟩ | ⟨fed, -⟩
    · rw [feedAll_cons fed] at whole
      refine ⟨before, held ++ [line], ?_, closed, ?_, ?_⟩
      · rw [parts, List.append_assoc]
      · rw [whole, List.map_append, waiting]
        exact grown.symm
      · rw [same, logical, logical, whole]
        simp [feedAll, List.reduceOption_append]
    · rw [feedAll_cons fed] at whole
      refine ⟨lines ++ [line], [], (List.append_nil _).symm, ?_, ?_, rfl⟩ <;> rw [whole] <;> rfl

end Block

namespace Session

variable {world : World} {settings : Settings}

theorem conclude_ne_ended (o : Outcome Result) : (conclude o).1 ≠ .ok none := by
  obtain ⟨answer, t⟩ := o
  cases answer <;> exact nofun

theorem mapAnswer_ne_ended {α : Type} (f : α → Text) (o : Outcome α) :
    (mapAnswer (some ∘ f) o).1 ≠ .ok none := by
  obtain ⟨answer, t⟩ := o
  cases answer <;> exact nofun

/-- Only the command for it ends the session, at whatever depth a line is dispatched. -/
theorem dispatch_ne_ended (world : World) (settings : Settings) {line : Text}
    (stays : isExit line.trim = false) (room depth : Nat) (s : Session) :
    (dispatch world settings room depth line s).1 ≠ .ok none := by
  rw [dispatch_eq]
  cases read : reading depth line s with
  | blank => exact nofun
  | exit =>
    rw [(reading_eq_exit_iff.mp read).2] at stays
    cases stays
  | leaf => exact conclude_ne_ended _
  | call d =>
    cases room with
    | zero => exact nofun
    | succ more => exact mapAnswer_ne_ended _ _

/-- Every line is answered that does not end the session. -/
theorem execute_answered (world : World) (settings : Settings) {line : Text}
    (stays : isExit line.trim = false) (s : Session) :
    ∃ output t, execute world settings line s = (some output, t) := by
  have goesOn := dispatch_ne_ended world settings stays (roomAt settings 0) 0 s
  rw [execute, runAt]
  cases ran : dispatch world settings (roomAt settings 0) 0 line s with
  | mk answer t =>
    rw [ran] at goesOn
    cases answer with
    | error e => exact ⟨_, _, rfl⟩
    | ok output =>
      cases output with
      | none => exact absurd rfl goesOn
      | some output => exact ⟨output, t, rfl⟩

theorem filled_some (output : Text) :
    filled (some output) = (if output.isEmpty then none else some output).toList := by
  cases output <;> rfl

/-- **A script is a run of its logical lines,** with a report at the end. -/
theorem runLines_eq {b : Block} {lines : List Text}
    (stays : ∀ line ∈ b.logical lines, isExit line.trim = false) (s : Session) :
    runLines world settings b lines s =
      ((runAll world settings (b.logical lines) s).1.flatMap filled ++
          (runEnd (b.feedAll lines).2).toList,
        (runAll world settings (b.logical lines) s).2) := by
  induction lines generalizing b s with
  | nil => rfl
  | cons line rest ih =>
    cases fed : b.feed line with
    | mk answer after =>
      rw [Block.feedAll_cons fed]
      cases answer with
      | none =>
        rw [Block.logical_cons_held fed] at stays ⊢
        rw [runLines, runLine, fed]
        exact ih stays s
      | some answer =>
        rw [Block.logical_cons_answered fed] at stays ⊢
        obtain ⟨here, later⟩ := List.forall_mem_cons.mp stays
        obtain ⟨output, t, executed⟩ := execute_answered world settings here s
        rw [runLines, Console.runLine_logical fed, executed, runAll, executed]
        simp only [ih later t, List.flatMap_cons, filled_some, List.append_assoc]

end Session

namespace Console

variable {world : World} {settings : Settings}

/-- **An interactive session is a run of its logical lines too.** At the end of the input it stops,
whatever block is open. -/
theorem runEvents_eq {b : Block} {lines : List Text}
    (stays : ∀ line ∈ b.logical lines, Session.isExit line.trim = false) {s : Session}
    (usable : Usable world settings ⟨s, b, true⟩ (lines.map .line)) :
    (runEvents world settings (lines.map .line) ⟨s, b, true⟩).1.printed =
        (Session.runAll world settings (b.logical lines) s).1.flatMap Session.filled ++ [[]] ∧
      (runEvents world settings (lines.map .line) ⟨s, b, true⟩).2 =
        ⟨(Session.runAll world settings (b.logical lines) s).2, (b.feedAll lines).2, false⟩ := by
  induction lines generalizing b s with
  | nil =>
    obtain ⟨prompt, formed⟩ := usable.prompt
    rw [List.map_nil, runEvents_nil formed]
    exact ⟨rfl, rfl⟩
  | cons line rest ih =>
    rw [List.map_cons] at usable ⊢
    obtain ⟨prompt, formed⟩ := usable.prompt
    cases fed : b.feed line with
    | mk answer after =>
      rw [Block.feedAll_cons fed]
      cases answer with
      | none =>
        rw [Block.logical_cons_held fed] at stays ⊢
        rw [runEvents_goesOn formed (react_held fed) rfl]
        exact ih stays (usable.goesOn (react_held fed) rfl)
      | some answer =>
        rw [Block.logical_cons_answered fed] at stays ⊢
        obtain ⟨here, others⟩ := List.forall_mem_cons.mp stays
        obtain ⟨output, t, executed⟩ := Session.execute_answered world settings here s
        have reacted := react_answered fed executed
        obtain ⟨printed, last⟩ := ih others (usable.goesOn reacted rfl)
        rw [runEvents_goesOn formed reacted rfl, Session.runAll, executed]
        refine ⟨?_, last⟩
        simp only [record, printed, List.flatMap_cons, Session.filled_some, List.append_assoc]

end Console

namespace Session

/-- **A script reports a block that is open at the end, and the console does not.** The lines that
wait are the last ones. Both leave the state in which the lines before the block were run, with the
functions and the exit status of that time. -/
theorem runScript_unterminated (world : World) (settings : Settings) {lines rest : List Text}
    {opening : Text} (isOpen : (Block.none.feedAll lines).2.lines = opening :: rest)
    (stays : ∀ line ∈ Block.none.logical lines, isExit line.trim = false) (s : Session) :
    ∃ before held outputs last, lines = before ++ held ∧ held.map Text.trim = opening :: rest ∧
      runScript world settings before s = (outputs, last) ∧
      runScript world settings lines s =
        (outputs ++ ["Error: unterminated bracket block: ".toList ++ opening], last) ∧
      (Console.Usable world settings (.start s) (lines.map .line) →
        (Console.run world settings (lines.map .line) s).1.printed =
            Console.banner :: outputs ++ [[]] ∧
          (Console.run world settings (lines.map .line) s).2 =
            ⟨last, (Block.none.feedAll lines).2, false⟩) := by
  obtain ⟨before, held, parts, closed, waiting, same⟩ := Block.exists_held lines
  have first : runScript world settings before s = _ := runLines_eq (same ▸ stays) s
  have whole : runScript world settings lines s = _ := runLines_eq stays s
  have report : runEnd (Block.none.feedAll lines).2 =
      some ("Error: unterminated bracket block: ".toList ++ opening) := by
    rw [runEnd, Block.finish, isOpen]
    rfl
  have silent : runEnd Block.none = none := rfl
  rw [closed, silent, same, Option.toList_none, List.append_nil] at first
  rw [report, Option.toList_some] at whole
  refine ⟨before, held, _, _, parts, waiting.trans isOpen, first, whole, fun usable => ?_⟩
  obtain ⟨printed, console⟩ := Console.runEvents_eq stays usable
  exact ⟨congrArg (Console.banner :: ·) printed, console⟩

/-- The second of two blocks is open at the end, behind a command that has failed. -/
theorem runScript_unterminated_second :
    let s : Session := .start ['/']
    let lines := ["def f => [a", "]", "delfunc g", " def g => [ x;", "y "].map String.toList
    let f : Definition := ⟨['f'], [['a']], false⟩
    let outputs := ["Function 'f' defined", "Function 'g' does not exist"].map String.toList
    let last : Session := ⟨['/'], 1, ⟨[f]⟩, []⟩
    runScript .quiet {} lines s =
        (outputs ++ ["Error: unterminated bracket block: def g => [ x;".toList], last) ∧
      (Console.run .quiet {} (lines.map .line) s).1.printed = Console.banner :: outputs ++ [[]] ∧
      (Console.run .quiet {} (lines.map .line) s).2.session = last := by
  intro s lines f outputs last
  have isOpen : (Block.none.feedAll lines).2.lines = ["def g => [ x;".toList, ['y']] := by
    decide +kernel
  have stays : ∀ line ∈ Block.none.logical lines, isExit line.trim = false := by decide +kernel
  obtain ⟨before, held, outputs', last', parts, waiting, ran, reported, console⟩ :=
    runScript_unterminated .quiet {} isOpen stays s
  obtain ⟨printed, ended⟩ := console (Console.usable_default _ _)
  have two : held.length = 2 := by simpa using congrArg List.length waiting
  have three : before.length = 3 := by
    have five : 5 = (before ++ held).length := congrArg List.length parts
    rw [List.length_append] at five
    omega
  have front : before = lines.take 3 := by rw [parts, ← three, List.take_left]
  have values : runScript .quiet {} (lines.take 3) s = (outputs, last) := by decide +kernel
  rw [front, values] at ran
  cases ran
  exact ⟨reported, printed, by rw [ended]⟩

/-- The exit status is not that of a definition that has failed, and the console reports nothing. -/
theorem runScript_unterminated_silent :
    let s : Session := .start ['/']
    let lines := ["def f => [".toList]
    (runScript .quiet {} lines s).2.exitCode = 0 ∧
      (execute .quiet {} "def f => [".toList s).2.exitCode = 1 ∧
      (Console.run .quiet {} (lines.map .line) s).1.printed = [Console.banner, []] := by
  decide +kernel

end Session
end MacroShell
