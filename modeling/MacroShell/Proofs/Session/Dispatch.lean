import MacroShell.Proofs.Function.Table
import MacroShell.Session.Dispatch

/-!
# Running a line, case by case

What is done with a line depends on what the session makes of it (`Reading`). The lemmas here say
once what running a line and replaying a list of lines can do.
-/

namespace MacroShell

/-- Surroundings in which every command line succeeds in silence and every path is a directory. -/
def World.quiet : World where
  now _ := .epoch
  spawn _ _ := .answered ⟨[], [], 0⟩
  isDirectory _ _ := .answered true
  fileBytes? _ _ := none

inductive Reading
  | blank
  | exit
  | call (d : Definition)
  /-- A definition, or a command after expansion. -/
  | leaf

namespace Session

/-- How a line is read at a depth of nested calls. -/
def reading (depth : Nat) (line : Text) (s : Session) : Reading :=
  if line.isBlank then .blank
  else if depth = 0 && isExit line.trim then .exit
  else match s.functions.get? line.trim with
    | none => .leaf
    | some d => .call d

def leaf (world : World) (settings : Settings) (line : Text) (s : Session) :
    Outcome (Option Text) :=
  conclude (runLeaf world settings line.trim s)

def mapAnswer {α β : Type} (f : α → β) (o : Outcome α) : Outcome β := (o.1.map f, o.2)

/-- The output of a line among those that are collected: none, if it is empty. -/
def filled (output : Option Text) : List Text := (output.filter (!·.isEmpty)).toList

variable {world : World} {settings : Settings}

theorem dispatch_eq (room depth : Nat) (line : Text) (s : Session) :
    dispatch world settings room depth line s =
      match reading depth line s with
      | .blank => (.ok (some []), s)
      | .exit => (.ok none, s)
      | .leaf => leaf world settings line s
      | .call d =>
        match room with
        | 0 => (.error (noRoom settings depth d), s)
        | room + 1 =>
          mapAnswer (some ∘ Text.joinLines)
            (replay (dispatch world settings room (depth + 1)) d.commands s) := by
  unfold dispatch reading
  by_cases blank : line.isBlank = true
  · simp only [blank, ↓reduceIte]
  · simp only [blank, Bool.false_eq_true, ↓reduceIte]
    by_cases exits : (decide (depth = 0) && isExit line.trim) = true
    · simp only [exits, ↓reduceIte]
    · simp only [exits, Bool.false_eq_true, ↓reduceIte]
      cases s.functions.get? line.trim with
      | none => rfl
      | some d =>
        cases room with
        | zero => rfl
        | succ room =>
          simp only
          split <;> rename_i body <;> rw [body] <;> rfl

/-- The way a line is read depends on the depth only as far as it may end the session. -/
theorem reading_congr {depth depth' : Nat} {line : Text} (s : Session)
    (h : isExit line.trim = true → (depth = 0 ↔ depth' = 0)) :
    reading depth line s = reading depth' line s := by
  have same : (decide (depth = 0) && isExit line.trim) =
      (decide (depth' = 0) && isExit line.trim) := by
    cases exits : isExit line.trim with
    | false => simp
    | true => simp [h exits]
  simp only [reading, same]

/-- The name of a function is a call, unless it ends the session. -/
theorem reading_of_get? {s : Session} {d : Definition}
    (found : s.functions.get? d.name = some d) {depth : Nat}
    (stays : depth = 0 → isExit d.name.trim = false) : reading depth d.name s = .call d := by
  have solid := FunctionTable.not_isBlank_of_get? found
  have goesOn : (decide (depth = 0) && isExit d.name.trim) = false := by
    by_cases top : depth = 0
    · rw [stays top, Bool.and_false]
    · simp [top]
  simp only [reading, solid, goesOn, FunctionTable.get?_trim solid, found, Bool.false_eq_true,
    ↓reduceIte]

theorem reading_eq_blank_iff {depth : Nat} {line : Text} {s : Session} :
    reading depth line s = .blank ↔ line.isBlank = true := by
  unfold reading
  split
  · simp_all
  · split
    · simp_all
    · split <;> simp_all

/-- A blank line does not end the session. -/
theorem not_isExit_of_isBlank {line : Text} (h : line.isBlank = true) :
    isExit line.trim = false := by
  rw [Text.trim_eq_nil_iff.mpr h]
  rfl

theorem reading_eq_exit_iff {depth : Nat} {line : Text} {s : Session} :
    reading depth line s = .exit ↔ depth = 0 ∧ isExit line.trim = true := by
  unfold reading
  split
  · rename_i blank
    simp [not_isExit_of_isBlank blank]
  · split
    · simp_all
    · split <;> simp_all

/-- What is called is a function of the session. -/
theorem mem_of_reading {depth : Nat} {line : Text} {s : Session} {d : Definition}
    (h : reading depth line s = .call d) : d ∈ s.functions.definitions := by
  unfold reading at h
  split at h
  · cases h
  · split at h
    · cases h
    · split at h
      · cases h
      · rename_i found
        obtain rfl := Reading.call.inj h
        exact FunctionTable.mem_of_get? found

/-- Any other line is a call or a leaf. -/
theorem reading_of_solid {depth : Nat} {line : Text} {s : Session} (solid : line.isBlank = false)
    (stays : depth = 0 → isExit line.trim = false) :
    (∃ d ∈ s.functions.definitions, reading depth line s = .call d) ∨
      reading depth line s = .leaf := by
  cases read : reading depth line s with
  | blank =>
    rw [reading_eq_blank_iff.mp read] at solid
    cases solid
  | exit =>
    obtain ⟨top, exits⟩ := reading_eq_exit_iff.mp read
    rw [stays top] at exits
    cases exits
  | call d => exact Or.inl ⟨d, mem_of_reading read, rfl⟩
  | leaf => exact Or.inr rfl

theorem mapAnswer_error {α β : Type} {f : α → β} {o : Outcome α} {e : Interruption} :
    (mapAnswer f o).1 = .error e ↔ o.1 = .error e := by
  obtain ⟨answer, s⟩ := o
  cases answer with
  | error => simp [mapAnswer, Except.map]
  | ok => exact iff_of_false nofun nofun

theorem isOk_mapAnswer {α β : Type} (f : α → β) (o : Outcome α) :
    (mapAnswer f o).1.isOk = o.1.isOk := by
  obtain ⟨answer, s⟩ := o
  cases answer <;> rfl

section
variable {run : Text → Session → Outcome (Option Text)} {line : Text} {s t : Session}

theorem replay_cons_error {e : Interruption} (h : run line s = (.error e, t))
    (rest : List Text) : replay run (line :: rest) s = (.error e, t) := by
  rw [replay, h]

theorem replay_cons_ok {output : Option Text} (h : run line s = (.ok output, t))
    (rest : List Text) :
    replay run (line :: rest) s = mapAnswer (filled output ++ ·) (replay run rest t) := by
  rw [replay, h]
  simp only
  split <;> rename_i others <;> rw [others] <;> rfl

end

/-! ## What lines keep -/

section
variable {R : Session → Session → Prop}

theorem replay_relation {run : Text → Session → Outcome (Option Text)}
    (refl : ∀ s, R s s) (trans : ∀ {s t u}, R s t → R t u → R s u)
    (step : ∀ line s, R s (run line s).2) (lines : List Text) (s : Session) :
    R s (replay run lines s).2 := by
  induction lines generalizing s with
  | nil => exact refl s
  | cons line rest ih =>
    have first := step line s
    cases h : run line s with
    | mk answer t =>
      rw [h] at first
      cases answer with
      | error e => rw [replay_cons_error h]; exact first
      | ok output => rw [replay_cons_ok h]; exact trans first (ih t)

/-- **What every leaf keeps, every line keeps**, however deeply its calls are nested. -/
theorem dispatch_relation (refl : ∀ s, R s s) (trans : ∀ {s t u}, R s t → R t u → R s u)
    (step : ∀ line s, R s (leaf world settings line s).2) (room depth : Nat) (line : Text)
    (s : Session) : R s (dispatch world settings room depth line s).2 := by
  induction room generalizing depth line s with
  | zero =>
    rw [dispatch_eq]
    cases reading depth line s with
    | blank | exit | call => exact refl s
    | leaf => exact step line s
  | succ room ih =>
    rw [dispatch_eq]
    cases reading depth line s with
    | blank | exit => exact refl s
    | leaf => exact step line s
    | call d => exact replay_relation refl trans (ih (depth + 1)) d.commands s

end

/-! ## What a leaf can do -/

def IsFault : Interruption → Prop
  | .failed _ | .noCommand | .noDisplay => True
  | .tooDeep _ _ | .stackExhausted => False

/-- All that a single command can do: answer, change one part of the session, or be interrupted.
What it asks of its surroundings is recorded even if it is interrupted. -/
inductive LeafStep (world : World) (s : Session) : Outcome Result → Prop
  | answer (r : Result) : LeafStep world s (.ok r, s)
  | fault {e : Interruption} : IsFault e → LeafStep world s (.error e, s)
  | move (r : Result) {target : Text} :
      world.isDirectory s.asked (Path.resolve s.cwd target) = .answered true →
      LeafStep world s (.ok r,
        { s.ask (.directory (Path.resolve s.cwd target)) with cwd := Path.resolve s.cwd target })
  | stay {target : Text} {answer : Except Interruption Result} :
      world.isDirectory s.asked (Path.resolve s.cwd target) ≠ .answered true →
      (∀ e, answer = .error e → IsFault e) →
      LeafStep world s (answer, s.ask (.directory (Path.resolve s.cwd target)))
  | define (r : Result) {source : Text} {d : Definition} : Definition.read source = .ok d →
      LeafStep world s (.ok r, { s with functions := s.functions.define d })
  | delete (r : Result) (name : Text) :
      LeafStep world s (.ok r, { s with functions := (s.functions.delete name).2 })
  | spawn {call : Call} {answer : Except Interruption Result} : call.cwd = s.cwd →
      (∀ e, answer = .error e → IsFault e) → LeafStep world s (answer, s.ask (.call call))

theorem store_step (source : Text) (s : Session) :
    LeafStep world s (.ok (Builtin.store source s).1, (Builtin.store source s).2) := by
  unfold Builtin.store FunctionTable.defineFrom
  cases h : Definition.read source with
  | error e => exact .answer _
  | ok d => exact .define _ h

theorem delete_step (c : Command) (s : Session) :
    LeafStep world s (.ok (Builtin.delete c s).1, (Builtin.delete c s).2) := by
  unfold Builtin.delete
  cases c.arguments with
  | nil => exact .answer _
  | cons name rest =>
    simp only
    cases h : s.functions.delete name with
    | mk found functions =>
      have table : functions = (s.functions.delete name).2 := by rw [h]
      cases found with
      | true => simpa only [table] using LeafStep.delete _ name
      | false => exact .answer _

theorem moveTo_step (c : Command) (s : Session) : LeafStep world s (Builtin.moveTo world c s) := by
  unfold Builtin.moveTo
  split
  · exact .answer _
  · simp only
    split <;> rename_i answer
    · exact .move _ answer
    all_goals exact .stay (by simp [answer]) (by simp [IsFault])

theorem list_step (s : Session) : LeafStep world s (Builtin.list s) := by
  unfold Builtin.list
  split
  · exact .answer _
  · exact .fault trivial

theorem builtin_step (b : Builtin) (c : Command) (s : Session) :
    LeafStep world s (b.run world c s) := by
  cases b with
  | changeDirectory => exact moveTo_step c s
  | define => exact store_step c.raw s
  | deleteFunction => exact delete_step c s
  | listFunctions => exact list_step s
  | printDirectory | clearScreen | echo | calculate | help => exact .answer _

theorem shell_step (commandLine : Text) (s : Session) :
    LeafStep world s (Shell.run world settings commandLine s) := by
  unfold Shell.run
  simp only
  split
  · exact .spawn rfl (by simp)
  · exact .spawn rfl (by simp [IsFault])
  · split
    · exact .spawn rfl (by simp [IsFault])
    · exact .spawn rfl (by simp)

theorem runLeaf_step (line : Text) (s : Session) :
    LeafStep world s (runLeaf world settings line s) := by
  unfold runLeaf
  split
  · exact store_step line s
  · unfold runCommand
    split
    · exact .answer _
    · split
      · exact builtin_step _ _ s
      · exact shell_step _ s

theorem LeafStep.error {s : Session} {o : Outcome Result} (h : LeafStep world s o)
    {e : Interruption} (he : o.1 = .error e) : IsFault e := by
  cases h with
  | fault fault => exact Except.error.inj he ▸ fault
  | stay _ faults | spawn _ faults => exact faults e he
  | answer | move | define | delete => cases he

/-- A command adds to the record, or leaves it alone. -/
theorem LeafStep.asked {s : Session} {o : Outcome Result} (h : LeafStep world s o) :
    s.asked <+: o.2.asked := by
  cases h with
  | move | stay | spawn => exact ⟨[_], rfl⟩
  | answer | fault | define | delete => exact List.prefix_rfl

/-- Recording the exit status of a leaf leaves the rest of its state alone. -/
theorem conclude_frame (o : Outcome Result) :
    ∃ exitCode, (conclude o).2 = { o.2 with exitCode := exitCode } := by
  obtain ⟨answer, s⟩ := o
  cases answer with
  | error => exact ⟨s.exitCode, rfl⟩
  | ok r => exact ⟨r.exitCode, rfl⟩

/-- Reporting an interruption changes the exit status alone. -/
theorem report_frame (o : Outcome (Option Text)) :
    ∃ exitCode, (report o).2 = { o.2 with exitCode := exitCode } := by
  obtain ⟨answer, s⟩ := o
  cases answer with
  | error => exact ⟨1, rfl⟩
  | ok => exact ⟨s.exitCode, rfl⟩

/-- A leaf is interrupted by a fault, or not at all. -/
theorem leaf_error {line : Text} {s : Session} {e : Interruption}
    (h : (leaf world settings line s).1 = .error e) : IsFault e := by
  have step : LeafStep world s (runLeaf world settings line.trim s) := runLeaf_step line.trim s
  unfold leaf at h
  cases hrun : runLeaf world settings line.trim s with
  | mk answer t =>
    rw [hrun] at step h
    cases answer with
    | error e' => exact Except.error.inj h ▸ step.error rfl
    | ok r => cases h

/-- What every single command keeps, and does not depend on the exit status, every leaf keeps. -/
theorem leaf_relation {R : Session → Session → Prop}
    (unrecorded : ∀ {s t} (exitCode : Int), R s t → R s { t with exitCode := exitCode })
    (step : ∀ {s o}, LeafStep world s o → R s o.2) (line : Text) (s : Session) :
    R s (leaf world settings line s).2 := by
  obtain ⟨exitCode, frame⟩ := conclude_frame (runLeaf world settings line.trim s)
  rw [leaf, frame]
  exact unrecorded exitCode (step (runLeaf_step line.trim s))

/-- What is on record stays there. -/
theorem leaf_asked (line : Text) (s : Session) :
    s.asked <+: (leaf world settings line s).2.asked :=
  leaf_relation (R := fun s t => s.asked <+: t.asked) (fun _ => id) LeafStep.asked line s

theorem calls_of_asked {s t : Session} (h : s.asked <+: t.asked) : s.calls <+: t.calls :=
  h.filterMap _

/-! ## The record and interruptions of a line -/

theorem dispatch_asked (world : World) (settings : Settings) (room depth : Nat) (line : Text)
    (s : Session) : s.asked <+: (dispatch world settings room depth line s).2.asked :=
  dispatch_relation (R := fun s t => s.asked <+: t.asked) (fun _ => List.prefix_rfl)
    List.IsPrefix.trans leaf_asked room depth line s

theorem replay_error {run : Text → Session → Outcome (Option Text)} {e : Interruption}
    {lines : List Text} {s : Session} (h : (replay run lines s).1 = .error e) :
    ∃ line t, (run line t).1 = .error e := by
  induction lines generalizing s with
  | nil => cases h
  | cons line rest ih =>
    cases hline : run line s with
    | mk answer t =>
      cases answer with
      | error e' =>
        rw [replay_cons_error hline] at h
        exact ⟨line, s, by rw [hline, Except.error.inj h]⟩
      | ok output =>
        rw [replay_cons_ok hline, mapAnswer_error] at h
        exact ih h

/-- **A line is interrupted by a fault of a leaf, or by a call that has no room,** inside as many
calls as there was room for. -/
theorem dispatch_error {room depth : Nat} {line : Text} {s : Session} {e : Interruption}
    (h : (dispatch world settings room depth line s).1 = .error e) :
    IsFault e ∨ ∃ d, e = noRoom settings (depth + room) d := by
  induction room generalizing depth line s with
  | zero =>
    rw [dispatch_eq] at h
    cases hread : reading depth line s <;> rw [hread] at h
    case blank | exit => cases h
    case leaf => exact Or.inl (leaf_error h)
    case call d => exact Or.inr ⟨d, (Except.error.inj h).symm⟩
  | succ room ih =>
    rw [dispatch_eq] at h
    cases hread : reading depth line s <;> rw [hread] at h
    case blank | exit => cases h
    case leaf => exact Or.inl (leaf_error h)
    case call d =>
      obtain ⟨line', t, inner⟩ := replay_error (mapAnswer_error.mp h)
      rw [← Nat.succ_add_eq_add_succ]
      exact ih inner

/-! ## The room for calls -/

theorem lt_roomAt_iff {k : Nat} :
    k < roomAt settings 0 ↔
      k < settings.stackCapacity ∧ ∀ limit ∈ settings.depthLimit, (k : Int) < limit := by
  unfold roomAt
  cases settings.depthLimit with
  | none => simp
  | some limit =>
    simp only [Option.mem_some_iff, forall_eq', Nat.lt_min]
    omega

theorem roomAt_le_stack : roomAt settings 0 ≤ settings.stackCapacity :=
  le_of_forall_lt fun _ room => (lt_roomAt_iff.mp room).1

theorem roomAt_of_stack
    (less : ∀ limit ∈ settings.depthLimit, (settings.stackCapacity : Int) < limit) :
    roomAt settings 0 = settings.stackCapacity := by
  refine Nat.le_antisymm roomAt_le_stack (le_of_forall_lt fun k held => ?_)
  refine lt_roomAt_iff.mpr ⟨held, fun limit limited => ?_⟩
  exact Int.lt_trans (Int.ofNat_lt.mpr held) (less limit limited)

section
variable {n : Int} (limited : settings.depthLimit = some n)
include limited

theorem limit_le_roomAt (enough : n ≤ settings.stackCapacity) : n ≤ roomAt settings 0 := by
  by_contra less
  have room : roomAt settings 0 < roomAt settings 0 := by
    refine lt_roomAt_iff.mpr ⟨by omega, fun m hm => ?_⟩
    rw [Option.mem_unique hm limited]
    omega
  exact lt_irrefl _ room

theorem noRoom_of_limit {depth : Nat} (reached : n ≤ depth) (d : Definition) :
    noRoom settings depth d = .tooDeep d.name n := by
  rw [noRoom, limited]
  exact if_pos reached

end

theorem noRoom_of_stack {depth : Nat} (below : ∀ limit ∈ settings.depthLimit, (depth : Int) < limit)
    (d : Definition) : noRoom settings depth d = .stackExhausted := by
  unfold noRoom
  cases limited : settings.depthLimit with
  | none => rfl
  | some limit => exact if_neg (Int.not_le.mpr (below limit limited))

/-- Where a limit refuses a call, the stack could hold as many. -/
theorem limit_le_stack {line : Text} {s : Session} {name : Text} {n : Int}
    (deep : (runAt world settings 0 line s).1 = .error (.tooDeep name n)) :
    ∃ limit ∈ settings.depthLimit, limit ≤ settings.stackCapacity := by
  rcases dispatch_error deep with fault | ⟨d, room⟩
  · exact fault.elim
  · by_contra! less
    have below : ∀ limit ∈ settings.depthLimit, (roomAt settings 0 : Int) < limit := by
      intro limit limited
      have high := less limit limited
      have room : roomAt settings 0 ≤ settings.stackCapacity := roomAt_le_stack
      omega
    rw [Nat.zero_add, noRoom_of_stack below] at room
    cases room

/-- Where the stack is exhausted, no limit would have refused the call. -/
theorem stack_lt_limit {line : Text} {s : Session}
    (exhausted : (runAt world settings 0 line s).1 = .error .stackExhausted) :
    ∀ limit ∈ settings.depthLimit, (settings.stackCapacity : Int) < limit := by
  rcases dispatch_error exhausted with fault | ⟨d, room⟩
  · exact fault.elim
  · intro limit limited
    by_contra enough
    have reached := limit_le_roomAt limited (Int.not_lt.mp enough)
    rw [Nat.zero_add, noRoom_of_limit limited reached] at room
    cases room

end Session
end MacroShell
