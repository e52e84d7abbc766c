import MacroShell.Proofs.Session.Command
import MacroShell.Proofs.Session.Definitions

/-!
# The exit status

Running a line is followed leaf by leaf: a leaf is a definition or a command, at whatever depth of
calls it stands. Every leaf leaves its own exit status behind, and nothing else sets it.
-/

namespace MacroShell

/-- A leaf that was run to its end: its line, and its text and exit status. -/
structure LeafRun where
  line : Text
  result : Result
  deriving DecidableEq

/-- What comes of running lines, and the leaves that were run to their end on the way, in order. -/
structure Traced (α : Type) where
  outcome : Outcome α
  leaves : List LeafRun

namespace Session

/-- Runs a line that is read as a leaf. A leaf that is interrupted has no exit status. -/
def traceLeaf (world : World) (settings : Settings) (line : Text) (s : Session) :
    Traced (Option Text) :=
  ⟨leaf world settings line s,
    match (runLeaf world settings line.trim s).1 with
    | .ok r => [⟨line.trim, r⟩]
    | .error _ => []⟩

def traceAll (run : Text → Session → Traced (Option Text)) :
    List Text → Session → Traced (List Text)
  | [], s => ⟨(.ok [], s), []⟩
  | line :: rest, s =>
    let first := run line s
    match first.outcome with
    | (.error e, t) => ⟨(.error e, t), first.leaves⟩
    | (.ok output, t) =>
      let others := traceAll run rest t
      ⟨mapAnswer (filled output ++ ·) others.outcome, first.leaves ++ others.leaves⟩

/-- Runs a line at a depth of nested calls and collects the leaves, also those inside its calls. -/
def trace (world : World) (settings : Settings) (room depth : Nat) (line : Text) (s : Session) :
    Traced (Option Text) :=
  match reading depth line s with
  | .blank => ⟨(.ok (some []), s), []⟩
  | .exit => ⟨(.ok none, s), []⟩
  | .leaf => traceLeaf world settings line s
  | .call d =>
    match room with
    | 0 => ⟨(.error (noRoom settings depth d), s), []⟩
    | room + 1 =>
      let body := traceAll (trace world settings room (depth + 1)) d.commands s
      ⟨mapAnswer (some ∘ Text.joinLines) body.outcome, body.leaves⟩

variable {world : World} {settings : Settings}

section
variable {run : Text → Session → Traced (Option Text)} {line : Text} {s t : Session}

theorem traceAll_cons_error {e : Interruption} (h : (run line s).outcome = (.error e, t))
    (rest : List Text) :
    traceAll run (line :: rest) s = ⟨(.error e, t), (run line s).leaves⟩ := by
  rw [traceAll]
  simp only [h]

theorem traceAll_cons_ok {output : Option Text} (h : (run line s).outcome = (.ok output, t))
    (rest : List Text) :
    traceAll run (line :: rest) s =
      ⟨mapAnswer (filled output ++ ·) (traceAll run rest t).outcome,
        (run line s).leaves ++ (traceAll run rest t).leaves⟩ := by
  rw [traceAll]
  simp only [h]

end

/-! ## Following a run -/

theorem traceAll_outcome {run : Text → Session → Traced (Option Text)}
    {run' : Text → Session → Outcome (Option Text)}
    (same : ∀ line s, (run line s).outcome = run' line s) (lines : List Text) (s : Session) :
    (traceAll run lines s).outcome = replay run' lines s := by
  induction lines generalizing s with
  | nil => rfl
  | cons line rest ih =>
    cases h : (run line s).outcome with
    | mk answer t =>
      have plain := (same line s).symm.trans h
      cases answer with
      | error e => rw [traceAll_cons_error h, replay_cons_error plain]
      | ok output => rw [traceAll_cons_ok h, replay_cons_ok plain, ih]

/-- **Following the leaves changes nothing.** -/
theorem trace_outcome (world : World) (settings : Settings) (room depth : Nat) (line : Text)
    (s : Session) :
    (trace world settings room depth line s).outcome =
      dispatch world settings room depth line s := by
  induction room generalizing depth line s with
  | zero =>
    rw [dispatch_eq, trace]
    cases reading depth line s <;> rfl
  | succ room ih =>
    rw [dispatch_eq, trace]
    cases reading depth line s with
    | blank | exit | leaf => rfl
    | call d =>
      simp only
      rw [traceAll_outcome (ih (depth + 1))]

/-! ## The last leaf decides -/

def statusAfter (before : Int) (leaves : List LeafRun) : Int :=
  leaves.foldl (fun _ l => l.result.exitCode) before

theorem statusAfter_append (before : Int) (first others : List LeafRun) :
    statusAfter before (first ++ others) = statusAfter (statusAfter before first) others :=
  List.foldl_append

theorem exitCode_traceLeaf {line : Text} {s : Session}
    (h : (traceLeaf world settings line s).outcome.1.isOk = true) :
    (traceLeaf world settings line s).leaves ≠ [] ∧
      (traceLeaf world settings line s).outcome.2.exitCode =
        statusAfter s.exitCode (traceLeaf world settings line s).leaves := by
  unfold traceLeaf leaf at h ⊢
  cases ran : runLeaf world settings line.trim s with
  | mk answer t =>
    rw [ran] at h
    cases answer with
    | error => cases h
    | ok r => exact ⟨List.cons_ne_nil _ _, rfl⟩

theorem exitCode_traceAll {run : Text → Session → Traced (Option Text)}
    (step : ∀ line s, (run line s).outcome.1.isOk = true →
      (run line s).outcome.2.exitCode = statusAfter s.exitCode (run line s).leaves)
    {lines : List Text} {s : Session} (h : (traceAll run lines s).outcome.1.isOk = true) :
    (traceAll run lines s).outcome.2.exitCode =
      statusAfter s.exitCode (traceAll run lines s).leaves := by
  induction lines generalizing s with
  | nil => rfl
  | cons line rest ih =>
    have first := step line s
    cases hline : (run line s).outcome with
    | mk answer t =>
      rw [hline] at first
      cases answer with
      | error e =>
        rw [traceAll_cons_error hline] at h
        cases h
      | ok output =>
        rw [traceAll_cons_ok hline] at h ⊢
        rw [statusAfter_append, ← first rfl]
        rw [isOk_mapAnswer] at h
        exact ih h

/-- **The last leaf decides.** Behind a line that comes to its end stands the exit status of the
last leaf, or the one from before if there is none. -/
theorem exitCode_trace {room depth : Nat} {line : Text} {s : Session}
    (h : (trace world settings room depth line s).outcome.1.isOk = true) :
    (trace world settings room depth line s).outcome.2.exitCode =
      statusAfter s.exitCode (trace world settings room depth line s).leaves := by
  induction room generalizing depth line s with
  | zero =>
    unfold trace at h ⊢
    cases read : reading depth line s <;> rw [read] at h
    case blank | exit => rfl
    case leaf => exact (exitCode_traceLeaf h).2
    case call => cases h
  | succ room ih =>
    unfold trace at h ⊢
    cases read : reading depth line s <;> rw [read] at h
    case blank | exit => rfl
    case leaf => exact (exitCode_traceLeaf h).2
    case call d =>
      rw [isOk_mapAnswer] at h
      exact exitCode_traceAll (fun _ _ => ih) h

/-! ## There is a leaf -/

theorem traceAll_leaves_ne_nil {run : Text → Session → Traced (Option Text)} {line : Text}
    {s : Session} (step : (run line s).outcome.1.isOk = true → (run line s).leaves ≠ [])
    {rest : List Text} (h : (traceAll run (line :: rest) s).outcome.1.isOk = true) :
    (traceAll run (line :: rest) s).leaves ≠ [] := by
  cases hline : (run line s).outcome with
  | mk answer t =>
    rw [hline] at step
    cases answer with
    | error e =>
      rw [traceAll_cons_error hline] at h
      cases h
    | ok output =>
      rw [traceAll_cons_ok hline]
      exact List.append_ne_nil_of_left_ne_nil (step rfl) _

/-- **A line that comes to its end has run a leaf,** unless it is blank or ends the session: the
first command of a function is there, and is not blank. -/
theorem leaves_ne_nil {room depth : Nat} {line : Text} {s : Session}
    (proper : ∀ d ∈ s.functions.definitions, d.Proper) (solid : line.isBlank = false)
    (stays : depth = 0 → isExit line.trim = false)
    (h : (trace world settings room depth line s).outcome.1.isOk = true) :
    (trace world settings room depth line s).leaves ≠ [] := by
  -- The first line of a function is enough: what is run behind it only adds leaves.
  induction room generalizing depth line with
  | zero =>
    unfold trace at h ⊢
    rcases reading_of_solid solid stays with ⟨d, -, read⟩ | read <;> rw [read] at h ⊢
    · cases h
    · exact (exitCode_traceLeaf h).1
  | succ room ih =>
    unfold trace at h ⊢
    rcases reading_of_solid solid stays with ⟨d, mem, read⟩ | read <;> rw [read] at h ⊢
    · obtain ⟨filled, lines⟩ := (proper d mem).commands
      obtain ⟨first, rest, split⟩ := List.exists_cons_of_ne_nil filled
      simp only [split, isOk_mapAnswer] at h ⊢
      refine traceAll_leaves_ne_nil (fun ok => ?_) h
      exact ih (lines first (by simp [split])) nofun ok
    · exact (exitCode_traceLeaf h).1

/-- Nothing is a command too, with the exit status 0. -/
theorem runLeaf_nothing {line : Text} (command : Definition.isDefinition line = false) {s : Session}
    (nothing : (Line.expand (world.now s.asked) line).isBlank = true) :
    runLeaf world settings line s = (.ok ⟨[], 0⟩, s) := by
  have name : (Command.read (Line.expand (world.now s.asked) line)).name = [] := by
    rw [Command.read_of_isBlank nothing]
  simp [runLeaf, runCommand, command, name]

/-! ## Every line -/

/-- A line that is blank or ends the session runs nothing. -/
theorem trace_idle {room : Nat} {line : Text} {s : Session}
    (h : line.isBlank = true ∨ isExit line.trim = true) :
    ∃ answer, trace world settings room 0 line s = ⟨(.ok answer, s), []⟩ := by
  unfold trace
  rcases h with blank | exits
  · exact ⟨_, by rw [reading_eq_blank_iff.mpr blank]⟩
  · exact ⟨_, by rw [reading_eq_exit_iff.mpr ⟨rfl, exits⟩]⟩

theorem exitCode_report {o : Outcome (Option Text)} (h : o.1.isOk = true) :
    (report o).2.exitCode = o.2.exitCode := by
  obtain ⟨answer, s⟩ := o
  cases answer with
  | error => cases h
  | ok => rfl

/-- **The exit status is that of the last leaf.** A line that is blank or ends the session leaves
the session as it is. Any other line that comes to its end has run a leaf, and the last one, however
deeply nested, decides on the exit status; nothing counts as a command with the exit status 0. A
line that is interrupted is answered with the reason, and the exit status is 1. -/
theorem execute_exitCode (world : World) (settings : Settings) {s : Session} (reach : Reachable s)
    (line : Text) :
    let run := trace world settings (roomAt settings 0) 0 line s
    run.outcome = runAt world settings 0 line s ∧
    (line.isBlank = true ∨ isExit line.trim = true →
      run.leaves = [] ∧ (execute world settings line s).2 = s) ∧
    (line.isBlank = false → isExit line.trim = false →
      (run.outcome.1.isOk = true → ∃ before last, run.leaves = before ++ [last] ∧
        (execute world settings line s).2.exitCode = last.result.exitCode) ∧
      ∀ e, run.outcome.1 = .error e →
        (execute world settings line s).1 = some ("Error: ".toList ++ e.message) ∧
        (execute world settings line s).2.exitCode = 1) ∧
    ∀ text t, Definition.isDefinition text = false →
      (Line.expand (world.now t.asked) text).isBlank = true →
      runLeaf world settings text t = (.ok ⟨[], 0⟩, t) := by
  intro run
  have same : run.outcome = runAt world settings 0 line s :=
    trace_outcome world settings (roomAt settings 0) 0 line s
  have executed : execute world settings line s = report run.outcome := by rw [execute, same]
  refine ⟨same, ?_, ?_, fun text t command nothing => runLeaf_nothing command nothing⟩
  · intro idle
    obtain ⟨answer, ran⟩ : ∃ answer, run = ⟨(.ok answer, s), []⟩ := trace_idle idle
    rw [executed, ran]
    exact ⟨rfl, rfl⟩
  · intro solid stays
    constructor
    · intro ok
      have filled := leaves_ne_nil (reachable_proper reach) solid (fun _ => stays) ok
      have status := exitCode_trace ok
      obtain ⟨before, last, split⟩ := (List.eq_nil_or_concat' run.leaves).resolve_left filled
      refine ⟨before, last, split, ?_⟩
      rw [executed, exitCode_report ok, status, split, statusAfter_append]
      rfl
    · intro e broken
      rw [executed]
      cases ran : run.outcome with
      | mk answer t =>
        rw [ran] at broken
        obtain rfl : answer = .error e := broken
        exact ⟨rfl, rfl⟩

/-- The status of each leaf of two nested calls, one of them a command that expands to nothing; then
the end of the session, and the same call where calls may not be nested. -/
theorem execute_exitCode_nested :
    let world : World :=
      { World.quiet with spawn := fun asked _ => .answered ⟨[], [], asked.length + 1⟩ }
    let s : Session := ⟨['/'], 0, ⟨[⟨['f'], [['x'], ['g']], false⟩,
      ⟨['g'], [['y'], "$[String: ]".toList, ['z']], false⟩]⟩, []⟩
    let run := trace world {} (roomAt {} 0) 0 ['F'] s
    Reachable s ∧ run.leaves.map (·.result.exitCode) = [1, 2, 0, 3] ∧
      (execute world {} ['F'] s).2.exitCode = 3 ∧ (execute world {} " Exit".toList s).2 = s ∧
      (execute world { depthLimit := some 1 } ['F'] s).2.exitCode = 1 := by
  intro world s run
  have first := Reachable.execute world {} "def f => [x; g]".toList (.start ['/'])
  have second := Reachable.execute world {} "def g => [y; $[String: ]; z]".toList first
  have entered : (execute world {} "def g => [y; $[String: ]; z]".toList
      (execute world {} "def f => [x; g]".toList (.start ['/'])).2).2 = s := by decide +kernel
  have reach : Reachable s := entered ▸ second
  have leaves : run.leaves = [⟨['x'], [], 1⟩, ⟨['y'], [], 2⟩, ⟨"$[String: ]".toList, [], 0⟩,
      ⟨['z'], [], 3⟩] := by decide +kernel
  obtain ⟨before, last, split, status⟩ :=
    ((execute_exitCode world {} reach ['F']).2.2.1 rfl rfl).1 (by decide +kernel)
  have third : last.result.exitCode = 3 := by
    have same := congrArg List.getLast? (split.symm.trans leaves)
    rw [List.getLast?_concat] at same
    obtain rfl : last = ⟨['z'], [], 3⟩ := Option.some.inj same
    rfl
  have idle := ((execute_exitCode world {} reach " Exit".toList).2.1 (Or.inr (by decide))).2
  have refused := (execute_exitCode world { depthLimit := some 1 } reach ['F']).2.2.1 rfl rfl
  have tooDeep : (trace world { depthLimit := some 1 } (roomAt { depthLimit := some 1 } 0) 0
      ['F'] s).outcome.1 = .error (.tooDeep ['g'] 1) := by decide +kernel
  exact ⟨reach, by rw [leaves]; rfl, status.trans third, idle, (refused.2 _ tooDeep).2⟩

end Session
end MacroShell
