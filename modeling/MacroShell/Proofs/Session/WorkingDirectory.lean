import MacroShell.Proofs.Session.DepthLimit
import MacroShell.Proofs.Session.Path

/-!
# The working directory

Running a line comes to a state by one leaf after another, and a leaf asks its surroundings at most
one thing: whether there is a directory to move to, or to carry out a command line. These requests,
with the answers of the moment, decide where the session stands.
-/

namespace MacroShell

/-- What a leaf asks of its surroundings. -/
inductive Request
  /-- Whether what a path means in a directory is a directory itself, with the answer. -/
  | move (directory target : Text) (answer : Reply Bool)
  | call (c : Call)

namespace Request

/-- Where a request leads to, if it is one to move and there is such a directory. -/
def destination? : Request → Option Text
  | move directory target (.answered true) => some (Path.resolve directory target)
  | _ => none

def call? : Request → Option Call
  | call c => some c
  | move _ _ _ => none

def query : Request → Query
  | move directory target _ => .directory (Path.resolve directory target)
  | call c => .call c

theorem call?_query (r : Request) : r.query.call? = r.call? := by cases r <;> rfl

/-- Where the session stands when it makes the request. -/
def origin : Request → Text
  | move directory _ _ => directory
  | call c => c.cwd

/-- The destination of the last request that has one, or where the session stood before. -/
def directoryAfter (start : Text) (requests : List Request) : Text :=
  (requests.filterMap destination?).getLast?.getD start

/-- Every request is made where the ones before it have led. -/
def Placed (start : Text) (requests : List Request) : Prop :=
  ∀ before r after, requests = before ++ r :: after → r.origin = directoryAfter start before

theorem directoryAfter_append (start : Text) (before after : List Request) :
    directoryAfter start (before ++ after) = directoryAfter (directoryAfter start before) after := by
  simp only [directoryAfter, List.filterMap_append, List.getLast?_append]
  cases (after.filterMap destination?).getLast? <;> rfl

theorem placed_nil (start : Text) : Placed start [] := by
  intro before r after split
  exact absurd split (by simp)

theorem placed_singleton {start : Text} {r : Request} (h : r.origin = start) :
    Placed start [r] := by
  intro before r' after split
  obtain ⟨rfl, same⟩ := List.append_eq_singleton_iff.mp split.symm |>.resolve_right (by simp)
  cases same
  exact h

theorem Placed.left {start : Text} {before after : List Request}
    (h : Placed start (before ++ after)) : Placed start before := by
  intro before' r after' split
  exact h before' r (after' ++ after) (by rw [split, List.append_assoc]; rfl)

theorem Placed.append {start : Text} {before after : List Request} (hb : Placed start before)
    (ha : Placed (directoryAfter start before) after) : Placed start (before ++ after) := by
  intro before' r after' split
  rcases List.append_eq_append_iff.mp split with ⟨more, rfl, rest⟩ | ⟨more, rfl, rest⟩
  · rw [directoryAfter_append]
    exact ha more r after' rest
  · cases more with
    | nil =>
      rw [List.append_nil] at ha
      exact ha [] r after' rest.symm
    | cons first others =>
      obtain ⟨rfl, -⟩ := List.cons_eq_cons.mp rest
      exact hb before' _ others rfl

theorem isNormal_destination {r : Request} (origin : Path.IsNormal r.origin) {path : Text}
    (led : r.destination? = some path) : Path.IsNormal path := by
  cases r with
  | call c => cases led
  | move directory target answer =>
    unfold destination? at led
    split at led
    · rename_i same
      cases same
      cases led
      exact Path.isNormal_resolve origin.absolute target
    · cases led

/-- From a normal path requests lead to normal paths only. -/
theorem isNormal_directoryAfter {start : Text} (h : Path.IsNormal start) {requests : List Request}
    (placed : Placed start requests) : Path.IsNormal (directoryAfter start requests) := by
  induction requests using List.reverseRecOn with
  | nil => exact h
  | append_singleton before r ih =>
    have here : r.origin = directoryAfter start before := placed before r [] rfl
    have earlier : Path.IsNormal (directoryAfter start before) := ih placed.left
    rw [directoryAfter_append]
    cases led : r.destination? with
    | none => simpa [directoryAfter, led] using earlier
    | some path =>
      have there : Path.IsNormal path := isNormal_destination (here ▸ earlier) led
      simpa [directoryAfter, led] using there

end Request

namespace Session

variable {world : World} {settings : Settings}

/-! ## The leaves of a run -/

/-- The leaves that lines replayed one after another come to. -/
def replayVisited (run : Text → Session → Outcome (Option Text))
    (visited : Text → Session → List Text) : List Text → Session → List Text
  | [], _ => []
  | line :: rest, s =>
    match run line s with
    | (.error _, _) => visited line s
    | (.ok _, t) => visited line s ++ replayVisited run visited rest t

/-- The leaves that a line comes to at a depth of nested calls, in order; the one that interrupts it
is among them. -/
def visited (world : World) (settings : Settings) (room depth : Nat) (line : Text) (s : Session) :
    List Text :=
  match reading depth line s with
  | .blank | .exit => []
  | .leaf => [line]
  | .call d =>
    match room with
    | 0 => []
    | room + 1 =>
      replayVisited (dispatch world settings room (depth + 1))
        (visited world settings room (depth + 1)) d.commands s

def runLeaves (world : World) (settings : Settings) (lines : List Text) (s : Session) : Session :=
  lines.foldl (fun s line => (leaf world settings line s).2) s

theorem replay_visited {run : Text → Session → Outcome (Option Text)}
    {visited : Text → Session → List Text}
    (step : ∀ line s, (run line s).2 = runLeaves world settings (visited line s) s)
    (lines : List Text) (s : Session) :
    (replay run lines s).2 = runLeaves world settings (replayVisited run visited lines s) s := by
  induction lines generalizing s with
  | nil => rfl
  | cons line rest ih =>
    have first := step line s
    cases h : run line s with
    | mk answer t =>
      rw [h] at first
      cases answer with
      | error e =>
        rw [replay_cons_error h, replayVisited, h]
        exact first
      | ok output =>
        rw [replay_cons_ok h, replayVisited, h]
        simp only [runLeaves, List.foldl_append] at first ⊢
        rw [← first]
        exact ih t

/-- **The state behind a line is that behind its leaves.** -/
theorem dispatch_visited (room depth : Nat) (line : Text) (s : Session) :
    (dispatch world settings room depth line s).2 =
      runLeaves world settings (visited world settings room depth line s) s := by
  induction room generalizing depth line s with
  | zero =>
    rw [dispatch_eq, visited]
    cases reading depth line s <;> rfl
  | succ room ih =>
    rw [dispatch_eq, visited]
    cases reading depth line s with
    | blank | exit | leaf => rfl
    | call d => exact replay_visited (ih (depth + 1)) d.commands s

/-! ## What a leaf asks -/

def moveRequest? (world : World) (c : Command) (s : Session) : Option Request :=
  if c.argumentText.isEmpty then none
  else
    let answer := world.isDirectory s.asked (Path.resolve s.cwd c.argumentText)
    some (.move s.cwd c.argumentText answer)

def commandRequest? (world : World) (settings : Settings) (c : Command) (s : Session) :
    Option Request :=
  if c.name.isEmpty then none
  else match Builtin.ofKeyword? c.keyword with
    | some .changeDirectory => moveRequest? world c s
    | some _ => none
    | none =>
      some (.call ⟨c.raw.trim, s.cwd,
        !Shell.isInteractive settings.interactiveCommands c.raw.trim, settings.shell⟩)

/-- What a leaf asks of its surroundings, if anything. -/
def request? (world : World) (settings : Settings) (line : Text) (s : Session) : Option Request :=
  if Definition.isDefinition line.trim then none
  else commandRequest? world settings (Command.read (Line.expand (world.now s.asked) line.trim)) s

/-- How a state becomes another one by requests, its exit status and its functions apart. -/
structure Follows (requests : List Request) (s t : Session) : Prop where
  cwd : t.cwd = Request.directoryAfter s.cwd requests
  asked : t.asked = s.asked ++ requests.map Request.query
  placed : Request.Placed s.cwd requests

namespace Follows

variable {requests later : List Request} {s t u : Session}

theorem none (cwd : t.cwd = s.cwd) (asked : t.asked = s.asked) : Follows [] s t :=
  ⟨cwd, by simpa using asked, Request.placed_nil s.cwd⟩

theorem trans (h : Follows requests s t) (h' : Follows later t u) :
    Follows (requests ++ later) s u where
  cwd := by rw [h'.cwd, h.cwd, Request.directoryAfter_append]
  asked := by rw [h'.asked, h.asked, List.map_append, List.append_assoc]
  placed := h.placed.append (h.cwd ▸ h'.placed)

theorem unrecorded (h : Follows requests s t) (exitCode : Int) :
    Follows requests s { t with exitCode := exitCode } :=
  ⟨h.cwd, h.asked, h.placed⟩

theorem calls (h : Follows requests s t) :
    t.calls = s.calls ++ requests.filterMap Request.call? := by
  have same : Query.call? ∘ Request.query = Request.call? := funext Request.call?_query
  rw [Session.calls, h.asked, List.filterMap_append, List.filterMap_map, same]
  rfl

end Follows

theorem moveTo_follows (c : Command) (s : Session) :
    Follows (moveRequest? world c s).toList s (Builtin.moveTo world c s).2 := by
  unfold moveRequest? Builtin.moveTo
  split
  · exact .none rfl rfl
  · simp only
    split <;> rename_i answer <;> rw [answer] <;>
      exact ⟨rfl, rfl, Request.placed_singleton rfl⟩

theorem store_follows (source : Text) (s : Session) : Follows [] s (Builtin.store source s).2 := by
  unfold Builtin.store
  split <;> exact .none rfl rfl

theorem delete_follows (c : Command) (s : Session) : Follows [] s (Builtin.delete c s).2 := by
  unfold Builtin.delete
  split
  · exact .none rfl rfl
  · split <;> exact .none rfl rfl

theorem list_follows (s : Session) : Follows [] s (Builtin.list s).2 := by
  unfold Builtin.list
  split <;> exact .none rfl rfl

theorem shell_follows (commandLine : Text) (s : Session) :
    Follows [.call ⟨commandLine, s.cwd,
      !Shell.isInteractive settings.interactiveCommands commandLine, settings.shell⟩] s
      (Shell.run world settings commandLine s).2 := by
  unfold Shell.run
  simp only
  split
  · exact ⟨rfl, rfl, Request.placed_singleton rfl⟩
  · exact ⟨rfl, rfl, Request.placed_singleton rfl⟩
  · split <;> exact ⟨rfl, rfl, Request.placed_singleton rfl⟩

theorem runCommand_follows (c : Command) (s : Session) :
    Follows (commandRequest? world settings c s).toList s (runCommand world settings c s).2 := by
  unfold commandRequest? runCommand
  split
  · exact .none rfl rfl
  · cases Builtin.ofKeyword? c.keyword with
    | none => exact shell_follows c.raw.trim s
    | some b =>
      cases b with
      | changeDirectory => exact moveTo_follows c s
      | define => exact store_follows c.raw s
      | deleteFunction => exact delete_follows c s
      | listFunctions => exact list_follows s
      | printDirectory | clearScreen | echo | calculate | help => exact .none rfl rfl

/-- **What a leaf changes**, its exit status and its functions apart, follows from what it asks. -/
theorem leaf_follows (line : Text) (s : Session) :
    Follows (request? world settings line s).toList s (leaf world settings line s).2 := by
  obtain ⟨exitCode, frame⟩ := conclude_frame (runLeaf world settings line.trim s)
  rw [leaf, frame]
  apply Follows.unrecorded
  unfold request? runLeaf
  split
  · exact store_follows line.trim s
  · exact runCommand_follows _ s

section
variable {s : Session} {directory target : Text} {answer : Reply Bool}

theorem moveTo_refused {c : Command}
    (asked : moveRequest? world c s = some (.move directory target answer))
    (refused : answer ≠ .answered true) :
    (Builtin.moveTo world c s).2 = s.ask (.directory (Path.resolve directory target)) := by
  unfold moveRequest? at asked
  unfold Builtin.moveTo
  split at asked
  · cases asked
  · rename_i argument
    cases asked
    simp only [argument, Bool.false_eq_true, ↓reduceIte]
    split
    · rename_i granted
      exact absurd granted refused
    all_goals rfl

theorem runCommand_refused {c : Command}
    (asked : commandRequest? world settings c s = some (.move directory target answer))
    (refused : answer ≠ .answered true) :
    (runCommand world settings c s).2 = s.ask (.directory (Path.resolve directory target)) := by
  unfold commandRequest? at asked
  unfold runCommand
  split at asked
  · cases asked
  · rename_i named
    rw [if_neg named]
    cases keyword : Builtin.ofKeyword? c.keyword with
    | none =>
      rw [keyword] at asked
      cases asked
    | some b =>
      rw [keyword] at asked
      cases b with
      | changeDirectory => exact moveTo_refused asked refused
      | _ => cases asked

/-- **A request to move that is not granted is put on record, and changes the exit status alone.** -/
theorem leaf_refused {line : Text}
    (asked : request? world settings line s = some (.move directory target answer))
    (refused : answer ≠ .answered true) :
    ∃ exitCode, (leaf world settings line s).2 =
      { s.ask (.directory (Path.resolve directory target)) with exitCode := exitCode } := by
  obtain ⟨exitCode, frame⟩ := conclude_frame (runLeaf world settings line.trim s)
  refine ⟨exitCode, ?_⟩
  rw [leaf, frame]
  unfold request? at asked
  unfold runLeaf
  split at asked
  · cases asked
  · rename_i command
    rw [if_neg command, runCommand_refused asked refused]

end

/-! ## What a session asks -/

def leafRequests (world : World) (settings : Settings) : List Text → Session → List Request
  | [], _ => []
  | line :: rest, s =>
    (request? world settings line s).toList ++
      leafRequests world settings rest (leaf world settings line s).2

theorem runLeaves_follows (lines : List Text) (s : Session) :
    Follows (leafRequests world settings lines s) s (runLeaves world settings lines s) := by
  induction lines generalizing s with
  | nil => exact .none rfl rfl
  | cons line rest ih => exact (leaf_follows line s).trans (ih _)

/-- A line that is run at a depth of nested calls, with the surroundings and the settings there
are. -/
structure Entry where
  world : World
  settings : Settings
  depth : Nat
  line : Text

namespace Entry

def run (e : Entry) (s : Session) : Session :=
  if e.depth = 0 then (execute e.world e.settings e.line s).2
  else (runAt e.world e.settings e.depth e.line s).2

def requests (e : Entry) (s : Session) : List Request :=
  leafRequests e.world e.settings
    (visited e.world e.settings (roomAt e.settings e.depth) e.depth e.line s) s

theorem run_follows (e : Entry) (s : Session) : Follows (e.requests s) s (e.run s) := by
  have line : Follows (e.requests s) s (runAt e.world e.settings e.depth e.line s).2 := by
    rw [runAt, dispatch_visited]
    exact runLeaves_follows _ s
  unfold run
  split
  · rename_i top
    rw [top] at line
    obtain ⟨exitCode, frame⟩ := report_frame (runAt e.world e.settings 0 e.line s)
    rw [execute, frame]
    exact line.unrecorded exitCode
  · exact line

end Entry

def enter (entries : List Entry) (s : Session) : Session :=
  entries.foldl (fun s e => e.run s) s

def requests : List Entry → Session → List Request
  | [], _ => []
  | e :: rest, s => e.requests s ++ requests rest (e.run s)

theorem enter_follows (entries : List Entry) (s : Session) :
    Follows (requests entries s) s (enter entries s) := by
  induction entries generalizing s with
  | nil => exact .none rfl rfl
  | cons e rest ih => exact (e.run_follows s).trans (ih _)

/-- **The working directory changes only by moving.** The record of a session is that of its requests,
and so are its calls. Each one is made in the directory that the last successful request to move
before it has led to, from where the session stood at that time, or in the first directory if there
is none, and there the session stands in the end. This is always an absolute path in normal form. A
request to move that is not granted is put on record, and changes the exit status alone. -/
theorem enter_directory {base : Text} (absolute : base.head? = some '/') (initial : Text)
    (entries : List Entry) :
    let start := Session.start (Path.resolve base initial)
    let log := requests entries start
    (enter entries start).asked = log.map Request.query ∧
      (enter entries start).calls = log.filterMap Request.call? ∧
      (enter entries start).cwd = Request.directoryAfter start.cwd log ∧
      (∀ before r after, log = before ++ r :: after →
        r.origin = Request.directoryAfter start.cwd before ∧ Path.IsNormal r.origin) ∧
      Path.IsNormal (enter entries start).cwd ∧
      ∀ world settings line s directory target answer,
        request? world settings line s = some (.move directory target answer) →
        answer ≠ .answered true →
        ∃ exitCode, (leaf world settings line s).2 =
          { s.ask (.directory (Path.resolve directory target)) with exitCode := exitCode } := by
  intro start log
  have follows : Follows log start (enter entries start) := enter_follows entries start
  have first : Path.IsNormal start.cwd := Path.isNormal_resolve absolute initial
  refine ⟨follows.asked, follows.calls, follows.cwd, ?_, ?_, fun _ _ _ _ _ _ _ => leaf_refused⟩
  · intro before r after split
    have here := follows.placed before r after split
    have whole : Request.Placed start.cwd log := follows.placed
    rw [split] at whole
    exact ⟨here, here ▸ Request.isNormal_directoryAfter first whole.left⟩
  · rw [follows.cwd]
    exact Request.isNormal_directoryAfter first follows.placed

/-- A function that asks for a directory, makes it and moves there, and is interrupted by a call
inside it; then a call from where the session has come to. -/
theorem enter_directory_interrupted :
    let world : World := { World.quiet with
      isDirectory := fun asked path => .answered (path = "/a".toList ||
        path = "/a/b".toList && asked.any fun q => q.call?.any (·.command = "mkdir b".toList)) }
    let entry (line : String) : Entry := ⟨world, { depthLimit := some 1 }, 0, line.toList⟩
    let entries := [entry "def f => [cd ../a; cd b; mkdir b; cd b; f; y]", entry "f", entry "z"]
    let s := enter entries (.start ['/'])
    ['/'].head? = some '/' ∧
      (requests entries (.start ['/'])).map Request.origin =
        [['/'], "/a".toList, "/a".toList, "/a".toList, "/a/b".toList] ∧
      s.calls.map (·.cwd) = ["/a".toList, "/a/b".toList] ∧ Path.IsNormal s.cwd ∧
      ∃ exitCode, (leaf world {} "cd c".toList s).2 =
        { s.ask (.directory "/a/b/c".toList) with exitCode := exitCode } := by
  intro world entry entries s
  have absolute : ['/'].head? = some '/' := rfl
  obtain ⟨-, calls, -, -, normal, refused⟩ := enter_directory absolute ['/'] entries
  have made : (requests entries (.start ['/'])).filterMap Request.call? =
      [⟨"mkdir b".toList, "/a".toList, true, none⟩, ⟨['z'], "/a/b".toList, true, none⟩] := by
    decide +kernel
  have there : s.cwd = "/a/b".toList := by decide +kernel
  have target : Path.resolve s.cwd ['c'] = "/a/b/c".toList := by
    rw [there]
    decide
  have asked (t : Session) : request? world {} "cd c".toList t =
      some (.move t.cwd ['c'] (world.isDirectory t.asked (Path.resolve t.cwd ['c']))) := rfl
  have absent : world.isDirectory s.asked (Path.resolve s.cwd ['c']) ≠ .answered true := by
    rw [target]
    nofun
  refine ⟨absolute, by decide +kernel, ?_, normal, ?_⟩
  · rw [show s.calls = _ from calls.trans made]
    rfl
  · rw [← target]
    exact refused _ _ _ _ _ _ _ (asked s) absent

end Session
end MacroShell
