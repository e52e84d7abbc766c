import MacroShell.Proofs.Session.DepthLimit

/-!
# A call replays the commands of its function

A call that is not broken off does what the stored commands do when they are entered one after
another, in every state that a session can come to (`Reachable`).
-/

namespace MacroShell
namespace Session

variable {world : World} {settings : Settings}

/-- The states of a session that runs lines, on its own or as if from inside nested calls. The
surroundings and the settings may be others each time. -/
inductive Reachable : Session → Prop
  | start (cwd : Text) : Reachable (.start cwd)
  | execute (world : World) (settings : Settings) (line : Text) {s : Session} :
      Reachable s → Reachable (execute world settings line s).2
  | runAt (world : World) (settings : Settings) (depth : Nat) (line : Text) {s : Session} :
      Reachable s → Reachable (runAt world settings depth line s).2

section
variable {P : FunctionTable → Prop}
  (define : ∀ {t : FunctionTable} {source : Text} {d : Definition},
    Definition.read source = .ok d → P t → P (t.define d))
  (delete : ∀ {t : FunctionTable} (name : Text), P t → P (t.delete name).2)
include define delete

theorem LeafStep.table {s : Session} {o : Outcome Result} (h : LeafStep world s o)
    (table : P s.functions) : P o.2.functions := by
  cases h with
  | define _ read => exact define read table
  | delete _ name => exact delete name table
  | answer | fault | move | stay | spawn => exact table

theorem dispatch_table (world : World) (settings : Settings) (room depth : Nat) (line : Text)
    (s : Session) (table : P s.functions) :
    P (dispatch world settings room depth line s).2.functions := by
  have leaf (line : Text) (s : Session) :
      P s.functions → P (leaf world settings line s).2.functions :=
    leaf_relation (R := fun s t => P s.functions → P t.functions) (fun _ => id)
      (fun step => step.table define delete) line s
  exact dispatch_relation (R := fun s t => P s.functions → P t.functions) (fun _ => id)
    (fun first second => second ∘ first) leaf room depth line s table

/-- What is true of no functions and is kept when one is stored or deleted is true of the functions
of a session. -/
theorem reachable_table (empty : P .empty) {s : Session} (h : Reachable s) : P s.functions := by
  induction h with
  | start => exact empty
  | execute world settings line _ ih =>
    obtain ⟨_, frame⟩ := report_frame (Session.runAt world settings 0 line _)
    rw [Session.execute, frame]
    exact dispatch_table define delete world settings _ 0 line _ ih
  | runAt world settings depth line _ ih =>
    exact dispatch_table define delete world settings _ depth line _ ih

end

theorem reachable_wellFormed {s : Session} (h : Reachable s) : s.functions.WellFormed :=
  reachable_table (fun read table => table.define (Definition.read_named read))
    (fun name table => table.delete name) FunctionTable.wellFormed_empty h

/-! ## Lines one after another -/

/-- Runs lines one after another outside all functions, each with its own answer. -/
def runAll (world : World) (settings : Settings) :
    List Text → Session → List (Option Text) × Session
  | [], s => ([], s)
  | line :: rest, s =>
    let (output, s) := execute world settings line s
    let (outputs, s) := runAll world settings rest s
    (output :: outputs, s)

/-- A replay that is not broken off is a run of lines. -/
theorem runAll_of_replay {lines outputs : List Text} {s t : Session}
    (h : replay (runAt world settings 0) lines s = (.ok outputs, t)) :
    (runAll world settings lines s).1.flatMap filled = outputs ∧
      (runAll world settings lines s).2 = t := by
  induction lines generalizing outputs s with
  | nil =>
    cases h
    exact ⟨rfl, rfl⟩
  | cons line rest ih =>
    cases hline : runAt world settings 0 line s with
    | mk answer u =>
      cases answer with
      | error e =>
        rw [replay_cons_error hline] at h
        cases h
      | ok output =>
        have answered : execute world settings line s = (output, u) := by rw [execute, hline]; rfl
        rw [replay_cons_ok hline] at h
        cases hrest : replay (runAt world settings 0) rest u with
        | mk more v =>
          rw [hrest] at h
          cases more with
          | error e => cases h
          | ok more =>
            cases h
            obtain ⟨same, state⟩ := ih hrest
            simp only [runAll, answered, List.flatMap_cons, same, state, and_self]

/-! ## Calls -/

theorem reading_name {s : Session} (reach : Reachable s) {f : Definition}
    (hf : f ∈ s.functions.definitions) (stays : isExit f.name = false) :
    reading 0 f.name s = .call f := by
  have table := reachable_wellFormed reach
  obtain ⟨_, trimmed⟩ := table.named f hf
  apply reading_of_get? (table.get?_name hf)
  intro _
  rw [trimmed]
  exact stays

/-- Commands that do not end the session do the same outside their function. -/
theorem replay_outside {room : Nat} {lines outputs : List Text} {s t : Session}
    (stay : ∀ c ∈ lines, isExit c.trim = false)
    (h : replay (dispatch world settings room 1) lines s = (.ok outputs, t)) :
    replay (dispatch world settings (room + 1) 0) lines s = (.ok outputs, t) := by
  have more : Continues (replay (dispatch world settings room 1) lines s)
      (replay (dispatch world settings (room + 1) 0) lines s) := by
    apply replay_continues
    · intro c hc s
      have never : isExit c.trim = true → (1 = 0 ↔ 0 = 0) := by simp [stay c hc]
      exact dispatch_continues (fun _ _ => rfl) (Nat.le_succ room) never s
    · exact dispatch_asked world settings (room + 1) 0
  have whole : ¬ OutOfRoom (replay (dispatch world settings room 1) lines s) := by
    rw [h]
    exact not_outOfRoom_ok
  rw [more.eq whole, h]

/-- **A call replays the commands of its function.** Unless it is broken off, it answers with the
outputs of these commands, as they were stored when it began, and leaves the same state: that of
running them one after another from the same state outside all functions. -/
theorem execute_name (world : World) (settings : Settings) {s : Session} (reach : Reachable s)
    {f : Definition} (hf : f ∈ s.functions.definitions) (name : isExit f.name = false)
    (commands : ∀ c ∈ f.commands, isExit c.trim = false)
    (finishes : (runAt world settings 0 f.name s).1.isOk = true) :
    execute world settings f.name s =
      (some (Text.joinLines ((runAll world settings f.commands s).1.flatMap filled)),
        (runAll world settings f.commands s).2) := by
  have read := reading_name reach hf name
  cases hroom : roomAt settings 0 with
  | zero =>
    rw [runAt, hroom, dispatch_eq, read] at finishes
    cases finishes
  | succ room =>
    rw [runAt, hroom, dispatch_eq, read] at finishes
    cases hbody : replay (dispatch world settings room 1) f.commands s with
    | mk outputs t =>
      cases outputs with
      | error e =>
        simp only [hbody] at finishes
        cases finishes
      | ok outputs =>
        have outside := replay_outside commands hbody
        have top : runAt world settings 0 = dispatch world settings (room + 1) 0 := by
          funext line s
          rw [runAt, hroom]
        rw [← top] at outside
        obtain ⟨same, state⟩ := runAll_of_replay outside
        rw [execute, runAt, hroom, dispatch_eq, read]
        simp only [hbody, same, state]
        rfl

/-- A function that replaces and then deletes itself still runs to the end of its commands. -/
theorem execute_selfReplacing :
    let f : Definition :=
      ⟨['f'], ["def F => x".toList, ['f'], "delfunc f".toList, "cd tmp".toList], false⟩
    let s := (execute .quiet {} "def f => [def F => x; f; delfunc f; cd tmp]".toList
      (.start ['/'])).2
    f ∈ s.functions.definitions ∧
      (execute .quiet {} f.name s).2 = ⟨"/tmp".toList, 0, .empty,
        [.call ⟨['x'], ['/'], true, none⟩, .directory "/tmp".toList]⟩ ∧
      execute .quiet {} f.name s =
        (some (Text.joinLines ((runAll .quiet {} f.commands s).1.flatMap filled)),
          (runAll .quiet {} f.commands s).2) := by
  intro f s
  have reach : Reachable s := .execute .quiet {} _ (.start ['/'])
  have stored : f ∈ s.functions.definitions := by decide +kernel
  have stays : ∀ c ∈ f.commands, isExit c.trim = false := by decide +kernel
  have finishes : (runAt .quiet {} 0 f.name s).1.isOk = true := by decide +kernel
  exact ⟨stored, by decide +kernel, execute_name .quiet {} reach stored rfl stays finishes⟩

end Session
end MacroShell
