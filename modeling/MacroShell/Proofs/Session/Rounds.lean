import Mathlib.Logic.Function.Iterate
import MacroShell.Proofs.Session.Console

/-!
# The loop of the console

Round by round, the console asks for a line with a prompt and deals with what comes from the
keyboard. A round without a prompt reads nothing: it prints what is wrong with the prompt format,
and the next round is the same again.
-/

namespace MacroShell

/-- Where the loop of the console stands: the events still to come before the end of the input,
those read so far, and what was shown. -/
structure Loop where
  console : Console
  unread : List KeyboardEvent
  read : List KeyboardEvent
  shown : Transcript

namespace Loop

def start (events : List KeyboardEvent) (s : Session) : Loop :=
  ⟨.start s, events, [], ⟨[Console.banner], []⟩⟩

def next (l : Loop) : KeyboardEvent := l.unread.head?.getD .endOfInput

/-- Deals with the next event, asked for with a prompt. -/
def advance (world : World) (settings : Settings) (prompt : Text) (l : Loop) : Loop :=
  let (printed, console) := l.console.react world settings l.next
  ⟨console, l.unread.tail, l.read ++ [l.next],
    ⟨l.shown.printed ++ printed.toList, l.shown.prompts ++ [prompt]⟩⟩

/-- Prints what is wrong with the prompt format, so many times. -/
def complain (message : Text) (n : Nat) (l : Loop) : Loop :=
  { l with shown :=
    ⟨l.shown.printed ++ List.replicate n ("Error: ".toList ++ message), l.shown.prompts⟩ }

def step (world : World) (settings : Settings) (l : Loop) : Loop :=
  if l.console.running then
    match l.console.prompt settings with
    | .ok prompt => l.advance world settings prompt
    | .error e => l.complain e.message 1
  else l

def rounds (world : World) (settings : Settings) (events : List KeyboardEvent) (s : Session)
    (k : Nat) : Loop :=
  (step world settings)^[k] (start events s)

/-- The loop has ended, or the prompt for the next event can be formed. -/
def Formed (settings : Settings) (l : Loop) : Prop :=
  l.console.running = true → ∃ prompt, l.console.prompt settings = .ok prompt

variable {world : World} {settings : Settings} {events : List KeyboardEvent} {l : Loop}

/-- A prompt format that suits every directory is enough. -/
theorem formed_of_prompt (suits : ∀ cwd, ∃ prompt, settings.prompt cwd = .ok prompt) (l : Loop) :
    Formed settings l := by
  intro _
  unfold Console.prompt
  split
  · exact ⟨_, rfl⟩
  · exact suits l.console.session.cwd

theorem step_ended (ended : l.console.running = false) : step world settings l = l := by
  simp [step, ended]

theorem step_formed {prompt : Text} (running : l.console.running = true)
    (formed : l.console.prompt settings = .ok prompt) :
    step world settings l = l.advance world settings prompt := by
  simp [step, running, formed]

theorem step_unformed {e : TemplateError} (running : l.console.running = true)
    (unformed : l.console.prompt settings = .error e) :
    step world settings l = l.complain e.message 1 := by
  simp [step, running, unformed]

/-- What a round can do. -/
theorem step_cases (world : World) (settings : Settings) (l : Loop) :
    (l.console.running = false ∧ step world settings l = l) ∨
      l.console.running = true ∧
        ((∃ prompt, l.console.prompt settings = .ok prompt ∧
            step world settings l = l.advance world settings prompt) ∨
          ∃ e, l.console.prompt settings = .error e ∧
            step world settings l = l.complain e.message 1) := by
  cases running : l.console.running with
  | false => exact Or.inl ⟨rfl, step_ended running⟩
  | true =>
    refine Or.inr ⟨rfl, ?_⟩
    cases prompt : l.console.prompt settings with
    | ok prompt' => exact Or.inl ⟨prompt', rfl, step_formed running prompt⟩
    | error e => exact Or.inr ⟨e, rfl, step_unformed running prompt⟩

/-! ## Reading in order -/

/-- Events are read one by one, in order, each after a prompt of its own; a loop that goes on has
yet to read the others. -/
structure Reads (events : List KeyboardEvent) (l : Loop) : Prop where
  order : l.read <+: events ++ [.endOfInput]
  others : l.console.running = true → l.read ++ l.unread = events
  prompts : l.shown.prompts.length = l.read.length

theorem Reads.advance (h : Reads events l) (running : l.console.running = true) (prompt : Text) :
    Reads events (l.advance world settings prompt) where
  order := by
    rw [← h.others running, List.append_assoc]
    refine (List.prefix_append_right_inj l.read).mpr ?_
    unfold next
    cases l.unread <;> simp
  others := by
    intro goesOn
    have others := h.others running
    cases more : l.unread with
    | nil => simp [Loop.advance, next, more, Console.react] at goesOn
    | cons e rest => simpa [Loop.advance, next, more] using others
  prompts := by simp [Loop.advance, h.prompts]

theorem Reads.step (h : Reads events l) : Reads events (step world settings l) := by
  rcases step_cases world settings l with
    ⟨-, same⟩ | ⟨running, ⟨prompt, -, same⟩ | ⟨e, -, same⟩⟩ <;> rw [same]
  · exact h
  · exact h.advance running prompt
  · exact ⟨h.order, h.others, h.prompts⟩

theorem rounds_succ (s : Session) (k : Nat) :
    rounds world settings events s (k + 1) =
      step world settings (rounds world settings events s k) :=
  Function.iterate_succ_apply' _ k _

theorem reads_rounds (s : Session) (k : Nat) :
    Reads events (rounds world settings events s k) := by
  induction k with
  | zero => exact ⟨List.nil_prefix, fun _ => rfl, rfl⟩
  | succ k ih =>
    rw [rounds_succ]
    exact ih.step

/-! ## Coming to what the console gives -/

/-- What is shown in the end, and the console, if the loop is left to `runEvents`. -/
def resume (world : World) (settings : Settings) (l : Loop) : Transcript × Console :=
  if l.console.running then
    let (t, c) := Console.runEvents world settings l.unread l.console
    (⟨l.shown.printed ++ t.printed, l.shown.prompts ++ t.prompts⟩, c)
  else (l.shown, l.console)

theorem resume_advance {prompt : Text} (running : l.console.running = true)
    (formed : l.console.prompt settings = .ok prompt) :
    resume world settings (l.advance world settings prompt) = resume world settings l := by
  obtain ⟨c, unread, read, shown⟩ := l
  replace running : c.running = true := running
  replace formed : c.prompt settings = .ok prompt := formed
  cases unread with
  | nil =>
    simp [resume, advance, next, running, Console.runEvents_nil formed, Console.react,
      Console.record]
  | cons e rest =>
    cases reacted : c.react world settings e with
    | mk printed after =>
      cases goesOn : after.running with
      | true =>
        simp [resume, advance, next, running, reacted, goesOn,
          Console.runEvents_goesOn formed reacted goesOn, Console.record]
      | false =>
        simp [resume, advance, next, running, reacted, goesOn,
          Console.runEvents_stops formed reacted goesOn, Console.record]

theorem resume_step (formed : Formed settings l) :
    resume world settings (step world settings l) = resume world settings l := by
  cases running : l.console.running with
  | false => rw [step_ended running]
  | true =>
    obtain ⟨prompt, ok⟩ := formed running
    rw [step_formed running ok, resume_advance running ok]

section
variable {s : Session}

theorem resume_rounds (k : Nat)
    (formed : ∀ m < k, Formed settings (rounds world settings events s m)) :
    resume world settings (rounds world settings events s k) =
      Console.run world settings events s := by
  induction k with
  | zero => rfl
  | succ k ih =>
    rw [rounds_succ, resume_step (formed k (Nat.lt_succ_self k))]
    exact ih fun m less => formed m (Nat.lt_succ_of_lt less)

/-! ## Coming to the end -/

theorem ended_rounds {k : Nat}
    (ended : (rounds world settings events s k).console.running = false) (n : Nat) :
    rounds world settings events s (k + n) = rounds world settings events s k := by
  induction n with
  | zero => rfl
  | succ n ih => rw [← Nat.add_assoc, rounds_succ, ih, step_ended ended]

/-- While the loop goes on and has its prompts, each round reads an event. -/
theorem length_read (formed : ∀ m, Formed settings (rounds world settings events s m))
    {k : Nat} (running : (rounds world settings events s k).console.running = true) :
    (rounds world settings events s k).read.length = k := by
  induction k with
  | zero => rfl
  | succ k ih =>
    cases before : (rounds world settings events s k).console.running with
    | false =>
      rw [ended_rounds before 1, before] at running
      cases running
    | true =>
      obtain ⟨prompt, ok⟩ := formed k before
      rw [rounds_succ, step_formed before ok]
      simp [advance, ih before]

/-- **With a prompt for each round the loop ends:** there are no more rounds than events, and one for
the end of the input. -/
theorem not_running_of_formed
    (formed : ∀ m, Formed settings (rounds world settings events s m)) :
    (rounds world settings events s (events.length + 1)).console.running = false := by
  rw [← Bool.not_eq_true]
  intro running
  have read := length_read formed running
  have others := congrArg List.length ((reads_rounds s (events.length + 1)).others running)
  rw [List.length_append, read] at others
  omega

/-- **Without a prompt the loop goes on for ever** and does nothing but complain. -/
theorem rounds_unformed {k : Nat} {e : TemplateError}
    (running : (rounds world settings events s k).console.running = true)
    (unformed : (rounds world settings events s k).console.prompt settings = .error e)
    (n : Nat) :
    rounds world settings events s (k + n) =
      (rounds world settings events s k).complain e.message n := by
  induction n with
  | zero => simp [complain]
  | succ n ih =>
    rw [← Nat.add_assoc, rounds_succ, ih, step_unformed (by exact running) (by exact unformed)]
    simp [complain, List.replicate_succ']

/-- The loop ends if and only if there is a prompt for each round. -/
theorem ends_iff :
    (∃ k, (rounds world settings events s k).console.running = false) ↔
      ∀ k, Formed settings (rounds world settings events s k) := by
  constructor
  · rintro ⟨k, ended⟩ m running
    cases prompt : (rounds world settings events s m).console.prompt settings with
    | ok prompt' => exact ⟨prompt', rfl⟩
    | error e =>
      have later := rounds_unformed running prompt k
      rw [Nat.add_comm, ended_rounds ended] at later
      have goesOn : (rounds world settings events s m).console.running = false := by
        rw [later] at ended
        exact ended
      rw [goesOn] at running
      cases running
  · intro formed
    exact ⟨events.length + 1, not_running_of_formed formed⟩

end

/-- **When the loop of the console ends.** It reads the events in order, each at most once and after
a prompt of its own. If and only if the prompt can be formed in each round, it ends; then there are
no more rounds than events and one more, and the loop has come to what `run` gives. Otherwise there
is a round from which on nothing is read, and the same complaint is printed over and over. -/
theorem rounds_end (world : World) (settings : Settings) (events : List KeyboardEvent)
    (s : Session) :
    let l := rounds world settings events s
    (∀ k, (l k).read <+: events ++ [.endOfInput] ∧
      (l k).shown.prompts.length = (l k).read.length) ∧
    ((∃ k, (l k).console.running = false) ↔ ∀ k, Formed settings (l k)) ∧
    ((∀ k, Formed settings (l k)) →
      (l (events.length + 1)).console.running = false ∧
        ((l (events.length + 1)).shown, (l (events.length + 1)).console) =
          Console.run world settings events s) ∧
    ∀ k e, (l k).console.running = true → (l k).console.prompt settings = .error e →
      ∀ n, l (k + n) = (l k).complain e.message n := by
  intro l
  refine ⟨fun k => ⟨(reads_rounds s k).order, (reads_rounds s k).prompts⟩, ends_iff, ?_,
    fun _ _ => rounds_unformed⟩
  intro formed
  have ended := not_running_of_formed formed
  have resumed := resume_rounds (events.length + 1) fun m _ => formed m
  rw [resume, ended] at resumed
  exact ⟨ended, resumed⟩

/-- With the usual prompt a session is ended from the keyboard, after a line, the interrupt key and
a line that could not be read; what is typed behind that is not read. -/
theorem rounds_end_usual :
    let events : List KeyboardEvent :=
      [.line "cd a".toList, .interrupt, .failure "x".toList, .line "Quit".toList, .line ['y']]
    let l := rounds .quiet {} events (.start ['/'])
    (∀ k, Formed {} (l k)) ∧ (l 6).console.running = false ∧ (l 6).read = events.take 4 ∧
      (l 6).read <+: events ++ [.endOfInput] ∧
      ((l 6).shown, (l 6).console) = Console.run .quiet {} events (.start ['/']) := by
  intro events l
  have formed (k : Nat) : Formed {} (rounds .quiet {} events (.start ['/']) k) :=
    formed_of_prompt (fun cwd => ⟨_, Console.prompt_default cwd⟩) _
  obtain ⟨reads, -, ends, -⟩ := rounds_end .quiet {} events (.start ['/'])
  have six : events.length + 1 = 6 := rfl
  rw [six] at ends
  obtain ⟨ended, same⟩ := ends formed
  simp only [l]
  exact ⟨formed, ended, by decide +kernel, (reads 6).1, same⟩

/-- A prompt that asks for the name of the user is never formed, so that not even the end of the
input is read. -/
theorem rounds_end_never :
    let settings : Settings := { promptFormat := "\x7buser\x7d>".toList }
    let l := rounds .quiet settings [] (.start "/work".toList)
    (¬ ∃ k, (l k).console.running = false) ∧
      ∀ k, (l k).read = [] ∧ (l k).shown.printed =
        Console.banner :: List.replicate k "Error: 'user'".toList := by
  intro settings l
  have refused : (l 0).console.prompt settings = .error (.unknownName "user".toList) := by
    decide +kernel
  refine ⟨fun ends => ?_, fun k => ?_⟩
  · obtain ⟨prompt, formed⟩ := ends_iff.mp ends 0 rfl
    exact nomatch refused.symm.trans formed
  · have stuck := rounds_unformed rfl refused k
    rw [Nat.zero_add] at stuck
    rw [show l k = _ from stuck]
    exact ⟨rfl, rfl⟩

end Loop
end MacroShell
