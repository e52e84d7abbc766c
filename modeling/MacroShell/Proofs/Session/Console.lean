import Mathlib.Data.List.DropRight
import MacroShell.Proofs.Function.Block
import MacroShell.Proofs.Session.Dispatch
import MacroShell.Session.Console
import MacroShell.Session.Script

/-!
# The console and scripts agree

An interactive session does with the lines that are typed what a script does with those that the
interrupt key has not taken back. A line of an open block is not yet settled: whether a script will
have it depends on what is typed next. The simulation therefore runs the script from where no block
was open, and carries the lines of the block along as they were typed (`Held`).
-/

namespace MacroShell

def KeyboardEvent.IsTyped : KeyboardEvent → Prop
  | .line _ | .interrupt => True
  | .failure _ | .endOfInput => False

namespace Console

def interruptMark : Text := "^C".toList

/-- Lines typed so far and the block that is open behind them, after one more event. The interrupt
key takes back as many lines as the block has. -/
def takeUp (typed : List Text × Block) : KeyboardEvent → List Text × Block
  | .line t => (typed.1 ++ [t], (typed.2.feed t).2)
  | .interrupt => (typed.1.rdrop typed.2.lines.length, .none)
  | .failure _ | .endOfInput => typed

/-- The typed lines without those that the interrupt key took back. -/
def kept (events : List KeyboardEvent) : List Text := (events.foldl takeUp ([], .none)).1

theorem takeUp_line {typed : List Text} {b after : Block} {t : Text} {answer : Option Text}
    (fed : b.feed t = (answer, after)) : takeUp (typed, b) (.line t) = (typed ++ [t], after) := by
  rw [takeUp, fed]

variable {world : World} {settings : Settings}

/-- The prompt can be formed in every directory that the session comes to. -/
def Usable (world : World) (settings : Settings) (c : Console) (events : List KeyboardEvent) :
    Prop :=
  ∀ before, before <+: events →
    ∃ prompt, settings.prompt (runEvents world settings before c).2.session.cwd = .ok prompt

/-! ## The lines of an open block -/

/-- The lines of an open block, as they were typed. -/
inductive Held : List Text → Block → Prop
  | nil : Held [] .none
  | line {held : List Text} {b after : Block} {t : Text} :
      Held held b → b.feed t = (none, after) → Held (held ++ [t]) after

namespace Held

variable {held : List Text} {b : Block}

theorem valid (h : Held held b) : b.Valid := by
  induction h with
  | nil => exact Block.valid_none
  | line _ fed ih =>
    rcases ih.feed _ with ⟨after, same, valid, -⟩ | ⟨same, -⟩
    · rw [fed] at same
      cases same
      exact valid
    · rw [fed] at same
      cases same

theorem lines (h : Held held b) : held.map Text.trim = b.lines := by
  induction h with
  | nil => rfl
  | line before fed ih =>
    rcases before.valid.feed _ with ⟨after, same, -, grown⟩ | ⟨same, -⟩
    · rw [fed] at same
      cases same
      rw [grown, List.map_append, ih, List.map_singleton]
    · rw [fed] at same
      cases same

theorem length (h : Held held b) : b.lines.length = held.length := by
  rw [← h.lines, List.length_map]

/-- A script takes the lines in without doing anything. -/
theorem runLines (h : Held held b) (rest : List Text) (s : Session) :
    Session.runLines world settings .none (held ++ rest) s =
      Session.runLines world settings b rest s := by
  induction h generalizing rest with
  | nil => rfl
  | line _ fed ih =>
    rw [List.append_assoc, ih, List.singleton_append, Session.runLines, Session.runLine, fed]
    rfl

theorem takeUp_interrupt (h : Held held b) (settled : List Text) :
    Console.takeUp (settled ++ held, b) .interrupt = (settled, .none) := by
  rw [Console.takeUp, h.length, List.rdrop_append_length]

end Held

/-- One event may settle the lines of the block, which then stay for good, and what it leaves
unsettled are again the lines of a block. -/
theorem Held.takeUp {held : List Text} {b : Block} (h : Held held b) (e : KeyboardEvent) :
    ∃ more held' after, Held held' after ∧
      ∀ settled, Console.takeUp (settled ++ held, b) e = (settled ++ more ++ held', after) := by
  cases e with
  | line t =>
    rcases h.valid.feed t with ⟨after, fed, -, -⟩ | ⟨fed, -⟩
    · refine ⟨[], held ++ [t], after, h.line fed, fun settled => ?_⟩
      rw [takeUp_line fed, List.append_nil, List.append_assoc]
    · refine ⟨held ++ [t], [], .none, .nil, fun settled => ?_⟩
      rw [takeUp_line fed, List.append_nil, List.append_assoc]
  | interrupt =>
    refine ⟨[], [], .none, .nil, fun settled => ?_⟩
    rw [h.takeUp_interrupt, List.append_nil, List.append_nil]
  | failure | endOfInput => exact ⟨[], held, b, h, fun settled => by simp [Console.takeUp]⟩

theorem Held.foldl_takeUp {held : List Text} {b : Block} (h : Held held b)
    (events : List KeyboardEvent) :
    ∃ more held' after, Held held' after ∧
      ∀ settled, events.foldl Console.takeUp (settled ++ held, b) =
        (settled ++ more ++ held', after) := by
  induction events generalizing held b with
  | nil => exact ⟨[], held, b, h, fun settled => by simp⟩
  | cons e rest ih =>
    obtain ⟨first, held', between, now, taken⟩ := h.takeUp e
    obtain ⟨more, last, after, later, others⟩ := ih now
    refine ⟨first ++ more, last, after, later, fun settled => ?_⟩
    rw [List.foldl_cons, taken, others, List.append_assoc settled first more]

/-- Lines that are settled do not matter to what becomes of those behind them. -/
theorem foldl_takeUp_settled (settled : List Text) (events : List KeyboardEvent) :
    (events.foldl takeUp (settled, .none)).1 = settled ++ (events.foldl takeUp ([], .none)).1 := by
  obtain ⟨more, held, after, -, taken⟩ := Held.nil.foldl_takeUp events
  have behind := taken settled
  have alone := taken []
  rw [List.append_nil] at behind alone
  rw [behind, alone, List.nil_append, List.append_assoc]

/-! ## Event by event -/

section
variable {s last : Session} {b after : Block} {t : Text}

theorem react_held (fed : b.feed t = (none, after)) :
    react world settings ⟨s, b, true⟩ (.line t) = (none, ⟨s, after, true⟩) := by
  simp [react, fed]

theorem react_answered {line output : Text} (fed : b.feed t = (some line, after))
    (executed : Session.execute world settings line s = (some output, last)) :
    react world settings ⟨s, b, true⟩ (.line t) =
      (if output.isEmpty then none else some output, ⟨last, after, true⟩) := by
  simp [react, fed, executed]

theorem react_exit {line : Text} (fed : b.feed t = (some line, after))
    (executed : Session.execute world settings line s = (none, last)) :
    react world settings ⟨s, b, true⟩ (.line t) = (none, ⟨last, after, false⟩) := by
  simp [react, fed, executed]

end

theorem react_block (world : World) (settings : Settings) (c : Console) (typed : List Text)
    (e : KeyboardEvent) :
    (c.react world settings e).2.block = (takeUp (typed, c.block) e).2 := by
  cases e with
  | line t =>
    rw [react, takeUp]
    cases fed : c.block.feed t with
    | mk answer after =>
      cases answer with
      | none => rfl
      | some line =>
        simp only
        split <;> rfl
  | interrupt | failure | endOfInput => rfl

theorem runEvents_session_nil (c : Console) :
    (runEvents world settings [] c).2.session = c.session := by
  unfold runEvents
  cases c.prompt settings <;> rfl

theorem Usable.prompt {c : Console} {events : List KeyboardEvent}
    (h : Usable world settings c events) : ∃ prompt, c.prompt settings = .ok prompt := by
  rw [Console.prompt]
  split
  · exact ⟨_, rfl⟩
  · obtain ⟨prompt, formed⟩ := h [] List.nil_prefix
    rw [runEvents_session_nil] at formed
    exact ⟨prompt, formed⟩

section
variable {c after : Console} {prompt : Text} {printed : Option Text} {e : KeyboardEvent}
  {rest : List KeyboardEvent}

theorem runEvents_nil (formed : c.prompt settings = .ok prompt) :
    runEvents world settings [] c =
      (record prompt (some []) ⟨[], []⟩, { c with running := false }) := by
  unfold runEvents
  rw [formed]
  rfl

theorem runEvents_goesOn (formed : c.prompt settings = .ok prompt)
    (reacted : c.react world settings e = (printed, after)) (running : after.running = true) :
    runEvents world settings (e :: rest) c =
      (record prompt printed (runEvents world settings rest after).1,
        (runEvents world settings rest after).2) := by
  conv_lhs => unfold runEvents
  simp only [formed, reacted, running, ↓reduceIte]

theorem runEvents_stops (formed : c.prompt settings = .ok prompt)
    (reacted : c.react world settings e = (printed, after)) (stopped : after.running = false) :
    runEvents world settings (e :: rest) c = (record prompt printed ⟨[], []⟩, after) := by
  unfold runEvents
  rw [formed]
  simp only [reacted, stopped, Bool.false_eq_true, ↓reduceIte]

theorem Usable.goesOn (h : Usable world settings c (e :: rest))
    (reacted : c.react world settings e = (printed, after)) (running : after.running = true) :
    Usable world settings after rest := by
  obtain ⟨prompt, formed⟩ := h.prompt
  intro before front
  obtain ⟨next, later⟩ := h (e :: before) (List.cons_prefix_cons.mpr ⟨rfl, front⟩)
  rw [runEvents_goesOn formed reacted running] at later
  exact ⟨next, later⟩

end

/-- The block of a console that goes on is the one that is open behind the lines typed. -/
theorem runEvents_block {before rest : List KeyboardEvent} {c : Console}
    (h : before.length < (runEvents world settings (before ++ rest) c).1.prompts.length)
    (typed : List Text) :
    (runEvents world settings before c).2.block =
      (before.foldl takeUp (typed, c.block)).2 := by
  induction before generalizing c typed with
  | nil =>
    unfold runEvents
    cases c.prompt settings <;> rfl
  | cons e before ih =>
    cases formed : c.prompt settings with
    | error refusal =>
      unfold runEvents at h
      rw [formed] at h
      cases h
    | ok prompt =>
      cases reacted : c.react world settings e with
      | mk printed after =>
        have block := react_block world settings c typed e
        rw [reacted] at block
        cases running : after.running with
        | false =>
          rw [List.cons_append, runEvents_stops formed reacted running] at h
          simp [record] at h
        | true =>
          rw [List.cons_append, runEvents_goesOn formed reacted running] at h
          rw [runEvents_goesOn formed reacted running, List.foldl_cons]
          rw [ih (by simpa [record] using h) (takeUp (typed, c.block) e).1, block]

/-! ## The usual prompt -/

theorem prompt_default (cwd : Text) : ({} : Settings).prompt cwd =
    .ok ("\x1b[32m".toList ++ (cwd ++ ['>']) ++ "\x1b[0m".toList) := rfl

theorem usable_default (c : Console) (events : List KeyboardEvent) : Usable world {} c events :=
  fun _ _ => ⟨_, prompt_default _⟩

/-! ## Beside a script -/

/-- What an interactive session has come to, beside a script: it has ended, in the state of the
script, and has printed the outputs of the script in the same order. Between them stands a mark for
each time the interrupt key was pressed, and behind them an empty line if the input has ended. -/
structure Agrees (events : List KeyboardEvent) (t : Transcript) (c : Console)
    (script : List Text × Session) : Prop where
  ended : c.running = false
  session : c.session = script.2
  printed : ∃ (first : List Text) (others : List (List Text)),
    first ++ others.flatten = script.1 ∧
    others.length = (events.take t.prompts.length).count .interrupt ∧
    t.printed = [interruptMark].intercalate (first :: others) ++
      if events.length < t.prompts.length then [[]] else []

namespace Agrees

variable {events : List KeyboardEvent} {t : Transcript} {c : Console} {prompt : Text}
  {outputs : List Text} {s : Session}

theorem endOfInput : Agrees [] (record prompt (some []) ⟨[], []⟩) { c with running := false }
    ([], c.session) :=
  ⟨rfl, rfl, [], [], rfl, rfl, rfl⟩

theorem exit {line : Text} {b : Block} :
    Agrees (.line line :: events) (record prompt none ⟨[], []⟩) ⟨s, b, false⟩ ([], s) := by
  refine ⟨rfl, rfl, [], [], rfl, ?_, ?_⟩
  · simp [record]
  · simp [record]

theorem line {line : Text} {output : Option Text} (h : Agrees events t c (outputs, s)) :
    Agrees (.line line :: events) (record prompt output t) c (output.toList ++ outputs, s) := by
  obtain ⟨ended, session, first, others, parts, marks, printed⟩ := h
  refine ⟨ended, session, output.toList ++ first, others, ?_, ?_, ?_⟩
  · rw [List.append_assoc, parts]
  · simpa [record] using marks
  · cases others <;> simp [record, printed]

theorem interrupt (h : Agrees events t c (outputs, s)) :
    Agrees (.interrupt :: events) (record prompt (some interruptMark) t) c (outputs, s) := by
  obtain ⟨ended, session, first, others, parts, marks, printed⟩ := h
  refine ⟨ended, session, [], first :: others, parts, ?_, ?_⟩
  · simpa [record] using marks
  · simp [record, printed]

end Agrees

/-! ## The two loops -/

theorem execute_nil (s : Session) : Session.execute world settings [] s = (some [], s) := by
  simp [Session.execute, Session.runAt, Session.dispatch, Text.isBlank, Session.report]

/-- A script passes over an empty line, which would change nothing if it were run. -/
theorem runLine_logical {b after : Block} {t line : Text} (fed : b.feed t = (some line, after))
    (s : Session) :
    Session.runLine world settings b t s =
      match Session.execute world settings line s with
      | (none, s) => (none, none, s)
      | (some output, s) => (if output.isEmpty then none else some output, some after, s) := by
  rw [Session.runLine, fed]
  cases line with
  | nil => rw [execute_nil]; rfl
  | cons => rfl

/-- **The console does what a script does with the lines kept,** from a block whose lines are held
back. -/
theorem runEvents_agrees {held : List Text} {b : Block} (h : Held held b)
    {events : List KeyboardEvent} (typed : ∀ e ∈ events, e.IsTyped) {s : Session}
    (usable : Usable world settings ⟨s, b, true⟩ events)
    (closed : (runEvents world settings events ⟨s, b, true⟩).2.block.isOpen = false) :
    Agrees events (runEvents world settings events ⟨s, b, true⟩).1
      (runEvents world settings events ⟨s, b, true⟩).2
      (Session.runLines world settings .none (events.foldl takeUp (held, b)).1 s) := by
  induction events generalizing held b s with
  | nil =>
    obtain ⟨prompt, formed⟩ := usable.prompt
    rw [runEvents_nil formed] at closed ⊢
    have none : b.lines = [] := by simpa [Block.isOpen] using closed
    obtain rfl : held = [] := by
      have length := h.length
      rw [none] at length
      exact List.length_eq_zero_iff.mp length.symm
    exact Agrees.endOfInput
  | cons e rest ih =>
    obtain ⟨prompt, formed⟩ := usable.prompt
    obtain ⟨here, others⟩ := List.forall_mem_cons.mp typed
    cases e with
    | failure | endOfInput => exact here.elim
    | interrupt =>
      have reacted : react world settings ⟨s, b, true⟩ .interrupt =
        (some interruptMark, ⟨s, .none, true⟩) := rfl
      have dropped : takeUp (held, b) .interrupt = ([], .none) := h.takeUp_interrupt []
      rw [runEvents_goesOn formed reacted rfl] at closed ⊢
      rw [List.foldl_cons, dropped]
      exact (ih Held.nil others (usable.goesOn reacted rfl) closed).interrupt
    | line t =>
      -- Either the line is held back too, or the script is given the lines held back and this one.
      rcases h.valid.feed t with ⟨after, fed, -, -⟩ | ⟨fed, -⟩
      · have reacted : react world settings ⟨s, b, true⟩ (.line t) = (none, ⟨s, after, true⟩) :=
          react_held fed
        rw [runEvents_goesOn formed reacted rfl] at closed ⊢
        rw [List.foldl_cons, takeUp_line fed]
        exact (ih (h.line fed) others (usable.goesOn reacted rfl) closed).line
      · generalize Text.joinLines (b.lines ++ [t.trim]) = line at fed
        rw [List.foldl_cons, takeUp_line fed, foldl_takeUp_settled, List.append_assoc, h.runLines,
          List.singleton_append, Session.runLines, runLine_logical fed]
        cases executed : Session.execute world settings line s with
        | mk answer last =>
          cases answer with
          | none =>
            rw [runEvents_stops formed (react_exit fed executed) rfl]
            exact Agrees.exit
          | some output =>
            have reacted := react_answered fed executed
            rw [runEvents_goesOn formed reacted rfl] at closed ⊢
            exact (ih Held.nil others (usable.goesOn reacted rfl) closed).line

/-- What the interrupt key takes back are the lines of the block that is open. -/
theorem kept_interrupt {before rest : List KeyboardEvent} {c : Console} (start : c.block = .none)
    (h : before.length < (runEvents world settings (before ++ rest) c).1.prompts.length) :
    ∃ discarded, kept before = kept (before ++ [.interrupt]) ++ discarded ∧
      discarded.map Text.trim = (runEvents world settings before c).2.block.lines := by
  have block := runEvents_block h []
  obtain ⟨more, held, after, here, taken⟩ := Held.nil.foldl_takeUp before
  have alone := taken []
  rw [List.append_nil, List.nil_append] at alone
  rw [start, alone] at block
  refine ⟨held, ?_, ?_⟩
  · rw [kept, kept, List.foldl_append, alone, List.foldl_cons, here.takeUp_interrupt]
    rfl
  · rw [block]
    exact here.lines

/-- **The console and scripts agree.** If lines and interrupts are typed up to the end of the input,
and no block is open at the end, then an interactive session ends. Its state, and what it has
printed below the banner, are those of a script of the typed lines without the ones that were taken
back, and each interrupt that was read took back the lines of the block open at that moment. -/
theorem run_kept (world : World) (settings : Settings) {events : List KeyboardEvent}
    (typed : ∀ e ∈ events, e.IsTyped) {s : Session}
    (usable : Usable world settings (start s) events)
    (closed : (run world settings events s).2.block.isOpen = false) :
    ∃ printed, (run world settings events s).1.printed = banner :: printed ∧
      Agrees events ⟨printed, (run world settings events s).1.prompts⟩
        (run world settings events s).2 (Session.runScript world settings (kept events) s) ∧
      ∀ before after, events = before ++ .interrupt :: after →
        before.length < (run world settings events s).1.prompts.length →
        ∃ discarded, kept before = kept (before ++ [.interrupt]) ++ discarded ∧
          discarded.map Text.trim = (run world settings before s).2.block.lines := by
  refine ⟨_, rfl, runEvents_agrees Held.nil typed usable closed, ?_⟩
  rintro before after rfl read
  exact kept_interrupt rfl read

/-- A block is taken back, and the session is ended from the keyboard while more could be typed. -/
theorem run_kept_interrupted :
    let events : List KeyboardEvent :=
      [.line "def f => [".toList, .line " echo a".toList, .interrupt, .line [],
        .line "def f => [echo b;".toList, .line "echo ^C]".toList, .line "F".toList, .interrupt,
        .line " EXIT".toList, .interrupt, .line "echo c".toList]
    let s : Session := .start ['/']
    kept (events.take 9) = ["", "def f => [echo b;", "echo ^C]", "F", " EXIT"].map String.toList ∧
      (run .quiet {} events s).1.printed =
        [banner, interruptMark, "Function 'f' defined".toList, "b\n^C".toList, interruptMark] ∧
      (run .quiet {} events s).2.session = (Session.runScript .quiet {} (kept events) s).2 := by
  intro events s
  have typed : ∀ e ∈ events, e.IsTyped := by simp [events, KeyboardEvent.IsTyped]
  have closed : (run .quiet {} events s).2.block.isOpen = false := by decide +kernel
  obtain ⟨_, -, agrees, -⟩ := run_kept .quiet {} typed (usable_default _ _) closed
  exact ⟨by decide +kernel, by decide +kernel, agrees.session⟩

end Console
end MacroShell
