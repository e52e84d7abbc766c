import MacroShell.Proofs.Session.Dispatch

/-!
# The limit on nested calls

Two runs of a line are followed side by side, one with more room for calls. They stay in the same
state until the one with less room has none left, and from there on the other one can only add to
the record (`Continues`).
-/

namespace MacroShell

def Settings.withLimit (settings : Settings) (limit : Option Int) : Settings :=
  { settings with depthLimit := limit }

def Settings.withStack (settings : Settings) (capacity : Nat) : Settings :=
  { settings with stackCapacity := capacity }

namespace Session

variable {world : World} {settings settings' : Settings}

/-- Leaves do not know of the limit. -/
theorem leaf_withLimit (limit limit' : Option Int) (line : Text) (s : Session) :
    leaf world (settings.withLimit limit) line s =
      leaf world (settings.withLimit limit') line s := rfl

/-- Nor do they know of the stack. -/
theorem leaf_withStack (capacity capacity' : Nat) (line : Text) (s : Session) :
    leaf world (settings.withStack capacity) line s =
      leaf world (settings.withStack capacity') line s := rfl

def HitsLimit {α : Type} (o : Outcome α) : Prop := ∃ name limit, o.1 = .error (.tooDeep name limit)

/-- Broken off by a call that has no room. -/
def OutOfRoom {α : Type} (o : Outcome α) : Prop := HitsLimit o ∨ o.1 = .error .stackExhausted

theorem outOfRoom_noRoom {α : Type} (settings : Settings) (depth : Nat) (d : Definition)
    (s : Session) : OutOfRoom ((.error (noRoom settings depth d), s) : Outcome α) := by
  unfold noRoom
  split
  · split
    · exact Or.inl ⟨_, _, rfl⟩
    · exact Or.inr rfl
  · exact Or.inr rfl

theorem outOfRoom_mapAnswer {α β : Type} {f : α → β} {o : Outcome α} (h : OutOfRoom o) :
    OutOfRoom (mapAnswer f o) := by
  rcases h with ⟨name, limit, deep⟩ | exhausted
  · exact Or.inl ⟨name, limit, mapAnswer_error.mpr deep⟩
  · exact Or.inr (mapAnswer_error.mpr exhausted)

theorem not_outOfRoom_ok {α : Type} {a : α} {s : Session} :
    ¬ OutOfRoom ((.ok a, s) : Outcome α) := by
  rintro (⟨_, _, deep⟩ | exhausted)
  · cases deep
  · cases exhausted

/-- The second outcome is the first one, or that of going on where the first has no room. -/
def Continues {α : Type} (o o' : Outcome α) : Prop :=
  o' = o ∨ OutOfRoom o ∧ o.2.asked <+: o'.2.asked

theorem Continues.mapAnswer {α β : Type} {f : α → β} {o o' : Outcome α} (h : Continues o o') :
    Continues (mapAnswer f o) (Session.mapAnswer f o') := by
  rcases h with rfl | ⟨out, grow⟩
  · exact Or.inl rfl
  · exact Or.inr ⟨outOfRoom_mapAnswer out, grow⟩

theorem Continues.eq {α : Type} {o o' : Outcome α} (h : Continues o o') (room : ¬ OutOfRoom o) :
    o' = o :=
  h.resolve_right fun out => room out.1

theorem Continues.calls {α : Type} {o o' : Outcome α} (h : Continues o o') :
    o.2.calls <+: o'.2.calls := by
  rcases h with rfl | ⟨_, grow⟩
  · exact List.prefix_rfl
  · exact calls_of_asked grow

section
variable {run run' : Text → Session → Outcome (Option Text)}

theorem replay_asked_cons (grow : ∀ line s, s.asked <+: (run line s).2.asked) (line : Text)
    (rest : List Text) (s : Session) :
    (run line s).2.asked <+: (replay run (line :: rest) s).2.asked := by
  cases h : run line s with
  | mk answer t =>
    cases answer with
    | error e =>
      have broken := replay_cons_error h rest
      simp only [broken, List.prefix_rfl]
    | ok output =>
      rw [replay_cons_ok h]
      exact replay_relation (R := fun s t => s.asked <+: t.asked) (fun _ => List.prefix_rfl)
        List.IsPrefix.trans grow rest t

theorem replay_continues {lines : List Text}
    (step : ∀ line ∈ lines, ∀ s, Continues (run line s) (run' line s))
    (grow : ∀ line s, s.asked <+: (run' line s).2.asked) (s : Session) :
    Continues (replay run lines s) (replay run' lines s) := by
  induction lines generalizing s with
  | nil => exact Or.inl rfl
  | cons line rest ih =>
    have others := ih fun l hl => step l (List.mem_cons_of_mem line hl)
    cases h : run line s with
    | mk answer t =>
      have first := step line List.mem_cons_self s
      rw [h] at first
      rcases first with same | ⟨out, more⟩
      · cases answer with
        | error e => exact Or.inl (by rw [replay_cons_error h, replay_cons_error same])
        | ok output =>
          rw [replay_cons_ok h, replay_cons_ok same]
          exact (others t).mapAnswer
      · have all := replay_asked_cons grow line rest s
        cases answer with
        | ok output => exact (not_outOfRoom_ok out).elim
        | error e =>
          rw [replay_cons_error h]
          refine Or.inr ⟨?_, more.trans all⟩
          rcases out with ⟨name, limit, deep⟩ | exhausted
          · exact Or.inl ⟨name, limit, congrArg _ (Except.error.inj deep)⟩
          · exact Or.inr (congrArg _ (Except.error.inj exhausted))

end

/-- A higher limit, or none, and more stack leave no less room. -/
theorem roomAt_mono (stack : settings.stackCapacity ≤ settings'.stackCapacity)
    (limits : ∀ m ∈ settings'.depthLimit, ∃ n ∈ settings.depthLimit, n ≤ m) :
    roomAt settings 0 ≤ roomAt settings' 0 := by
  refine le_of_forall_lt fun k room => ?_
  obtain ⟨held, below⟩ := lt_roomAt_iff.mp room
  refine lt_roomAt_iff.mpr ⟨Nat.lt_of_lt_of_le held stack, fun m high => ?_⟩
  obtain ⟨n, low, le⟩ := limits m high
  exact Int.lt_of_lt_of_le (below n low) le

section
variable (leaves : ∀ line s, leaf world settings' line s = leaf world settings line s)
include leaves

/-- **More room continues a line.** The depth itself counts only for lines that end the session. -/
theorem dispatch_continues {room room' depth depth' : Nat} {line : Text} (more : room ≤ room')
    (h : isExit line.trim = true → (depth = 0 ↔ depth' = 0)) (s : Session) :
    Continues (dispatch world settings room depth line s)
      (dispatch world settings' room' depth' line s) := by
  have read := reading_congr s h
  induction room generalizing room' depth depth' line s with
  | zero =>
    have grow := dispatch_asked world settings' room' depth' line s
    rw [dispatch_eq 0, read]
    cases reads : reading depth' line s with
    | call d => exact Or.inr ⟨outOfRoom_noRoom settings depth d s, grow⟩
    | leaf =>
      rw [dispatch_eq, reads]
      exact Or.inl (leaves line s)
    | blank | exit =>
      rw [dispatch_eq, reads]
      exact Or.inl rfl
  | succ room ih =>
    obtain ⟨room', rfl⟩ : ∃ r, room' = r + 1 := ⟨room' - 1, by omega⟩
    rw [dispatch_eq, dispatch_eq, read]
    cases reading depth' line s with
    | blank | exit => exact Or.inl rfl
    | leaf => exact Or.inl (leaves line s)
    | call d =>
      have inside (line : Text) : isExit line.trim = true → (depth + 1 = 0 ↔ depth' + 1 = 0) :=
        fun _ => by simp
      apply Continues.mapAnswer
      apply replay_continues
      · intro line _ s
        exact ih (by omega) (inside line) s (reading_congr s (inside line))
      · exact dispatch_asked world settings' room' (depth' + 1)

/-- **With the same room a line is the same,** if the calls for which there is none are refused in
the same way. -/
theorem dispatch_congr {room depth : Nat}
    (refusals : ∀ d, noRoom settings' (depth + room) d = noRoom settings (depth + room) d)
    (line : Text) (s : Session) :
    dispatch world settings' room depth line s = dispatch world settings room depth line s := by
  induction room generalizing depth line s with
  | zero =>
    rw [dispatch_eq, dispatch_eq]
    cases reading depth line s with
    | blank | exit => rfl
    | leaf => exact leaves line s
    | call d => exact congrArg (fun e => (Except.error e, s)) (refusals d)
  | succ room ih =>
    have inside : dispatch world settings' room (depth + 1) =
        dispatch world settings room (depth + 1) := by
      funext line s
      refine ih (fun d => ?_) line s
      rw [Nat.succ_add_eq_add_succ]
      exact refusals d
    rw [dispatch_eq, dispatch_eq]
    cases reading depth line s with
    | leaf => exact leaves line s
    | blank | exit => rfl
    | call d => simp only [inside]

end

/-! ## Whole lines under two limits -/

section
variable {n : Int} {limit : Option Int}

/-- A line on the same stack, under a limit and under a higher one or none. -/
theorem runAt_continues (higher : ∀ m ∈ limit, n ≤ m) (line : Text) (s : Session) :
    Continues (runAt world (settings.withLimit (some n)) 0 line s)
      (runAt world (settings.withLimit limit) 0 line s) :=
  have room : roomAt (settings.withLimit (some n)) 0 ≤ roomAt (settings.withLimit limit) 0 :=
    roomAt_mono (Nat.le_refl _) fun m hm => ⟨n, rfl, higher m hm⟩
  dispatch_continues (leaf_withLimit limit (some n)) room (fun _ => Iff.rfl) s

/-- If the stack is less than both limits, it is the room under both. -/
theorem runAt_of_stack (higher : ∀ m ∈ limit, n ≤ m) (less : (settings.stackCapacity : Int) < n)
    (line : Text) (s : Session) :
    runAt world (settings.withLimit limit) 0 line s =
      runAt world (settings.withLimit (some n)) 0 line s := by
  have low : ∀ m ∈ some n, (settings.stackCapacity : Int) < m := by simpa using less
  have high : ∀ m ∈ limit, (settings.stackCapacity : Int) < m :=
    fun m hm => Int.lt_of_lt_of_le less (higher m hm)
  have room {limit : Option Int} (above : ∀ m ∈ limit, (settings.stackCapacity : Int) < m) :
      roomAt (settings.withLimit limit) 0 = settings.stackCapacity :=
    roomAt_of_stack above
  rw [runAt, runAt, room low, room high]
  refine dispatch_congr (leaf_withLimit limit (some n)) (fun d => ?_) line s
  rw [Nat.zero_add, noRoom_of_stack high, noRoom_of_stack low]

theorem runAt_withLimit (higher : ∀ m ∈ limit, n ≤ m) {line : Text} {s : Session}
    (keeps : ¬ HitsLimit (runAt world (settings.withLimit (some n)) 0 line s)) :
    runAt world (settings.withLimit limit) 0 line s =
      runAt world (settings.withLimit (some n)) 0 line s := by
  by_cases less : (settings.stackCapacity : Int) < n
  · exact runAt_of_stack higher less line s
  · refine (runAt_continues higher line s).eq ?_
    rintro (hits | exhausted)
    · exact keeps hits
    · exact less (stack_lt_limit exhausted n rfl)

end

/-! ## More stack -/

section
variable {capacity capacity' : Nat} (more : capacity ≤ capacity')
include more

theorem roomAt_withStack_le :
    roomAt (settings.withStack capacity) 0 ≤ roomAt (settings.withStack capacity') 0 :=
  roomAt_mono more fun m hm => ⟨m, hm, Int.le_refl m⟩

/-- A stack that holds all the calls that the limit allows need not be larger. -/
theorem roomAt_withStack {n : Int} (limited : settings.depthLimit = some n)
    (enough : n ≤ capacity) :
    roomAt (settings.withStack capacity') 0 = roomAt (settings.withStack capacity) 0 := by
  refine Nat.le_antisymm (le_of_forall_lt fun k room => ?_) (roomAt_withStack_le more)
  have below := (lt_roomAt_iff.mp room).2
  have held : (k : Int) < capacity := Int.lt_of_lt_of_le (below n limited) enough
  exact lt_roomAt_iff.mpr ⟨Int.ofNat_lt.mp held, below⟩

/-- A line that does not exhaust the stack is the same with more of it. -/
theorem runAt_withStack {line : Text} {s : Session}
    (ends : (runAt world (settings.withStack capacity) 0 line s).1 ≠ .error .stackExhausted) :
    runAt world (settings.withStack capacity') 0 line s =
      runAt world (settings.withStack capacity) 0 line s := by
  have leaves : ∀ line s, leaf world (settings.withStack capacity') line s =
      leaf world (settings.withStack capacity) line s := leaf_withStack capacity' capacity
  by_cases hits : HitsLimit (runAt world (settings.withStack capacity) 0 line s)
  · obtain ⟨name, m, deep⟩ := hits
    obtain ⟨n, limited, enough⟩ := limit_le_stack deep
    have room : roomAt (settings.withStack capacity') 0 = roomAt (settings.withStack capacity) 0 :=
      roomAt_withStack more limited enough
    rw [runAt, runAt, room]
    exact dispatch_congr leaves (fun _ => rfl) line s
  · refine (dispatch_continues leaves (roomAt_withStack_le more) (fun _ => Iff.rfl) s).eq ?_
    rintro (deep | exhausted)
    · exact hits deep
    · exact ends exhausted

end

/-- A line outside all functions comes to its end with this outcome if there is enough stack. -/
def RunsTo (world : World) (settings : Settings) (line : Text) (s : Session)
    (o : Outcome (Option Text)) : Prop :=
  o.1 ≠ .error .stackExhausted ∧ ∃ capacity, runAt world (settings.withStack capacity) 0 line s = o

/-- Under a limit there is enough stack for every line. -/
theorem exists_runsTo (world : World) (settings : Settings) (n : Int) (line : Text) (s : Session) :
    ∃ o, RunsTo world (settings.withLimit (some n)) line s o := by
  refine ⟨_, fun exhausted => ?_, n.toNat, rfl⟩
  have less : (n.toNat : Int) < n := stack_lt_limit exhausted n rfl
  omega

/-- Two lines that come to their end do so on one and the same stack. -/
theorem RunsTo.on {limit limit' : Option Int} {line : Text} {s : Session}
    {o o' : Outcome (Option Text)} (h : RunsTo world (settings.withLimit limit) line s o)
    (h' : RunsTo world (settings.withLimit limit') line s o') :
    ∃ capacity, runAt world ((settings.withStack capacity).withLimit limit) 0 line s = o ∧
      runAt world ((settings.withStack capacity).withLimit limit') 0 line s = o' := by
  obtain ⟨ends, capacity, rfl⟩ := h
  obtain ⟨ends', capacity', rfl⟩ := h'
  exact ⟨max capacity capacity', runAt_withStack (Nat.le_max_left _ _) ends,
    runAt_withStack (Nat.le_max_right _ _) ends'⟩

/-- **The limit never changes a line that keeps to it.** Under every higher limit, and under none,
such a line has the same answer and leaves the same state. A line that does not keep to the limit
has made the first of the calls to the system shell that it makes otherwise. This is so on one and
the same stack, and also where each run has as much stack as it needs; under a limit there can be
enough for every line. -/
theorem execute_withLimit (world : World) (settings : Settings) {n : Int} {limit : Option Int}
    (higher : ∀ m ∈ limit, n ≤ m) (line : Text) (s : Session) :
    let low := settings.withLimit (some n)
    let high := settings.withLimit limit
    (¬ HitsLimit (runAt world low 0 line s) →
      execute world high line s = execute world low line s) ∧
    (HitsLimit (runAt world low 0 line s) →
      (execute world low line s).2.calls <+: (execute world high line s).2.calls) ∧
    (∃ o, RunsTo world low line s o) ∧
    ∀ o, RunsTo world low line s o →
      (¬ HitsLimit o → RunsTo world high line s o ∧
        ∀ o', RunsTo world high line s o' → report o' = report o) ∧
      (HitsLimit o → ∀ o', RunsTo world high line s o' →
        (report o).2.calls <+: (report o').2.calls) := by
  intro low high
  have grows {settings : Settings} :
      (execute world (settings.withLimit (some n)) line s).2.calls <+:
        (execute world (settings.withLimit limit) line s).2.calls := by
    obtain ⟨_, first⟩ := report_frame (runAt world (settings.withLimit (some n)) 0 line s)
    obtain ⟨_, second⟩ := report_frame (runAt world (settings.withLimit limit) 0 line s)
    rw [execute, execute, first, second]
    exact (runAt_continues higher line s).calls
  refine ⟨fun keeps => ?_, fun _ => grows, exists_runsTo world settings n line s,
    fun o ends => ⟨fun keeps => ⟨?_, fun o' ends' => ?_⟩, fun _ o' ends' => ?_⟩⟩
  · rw [execute, execute, runAt_withLimit higher keeps]
  · obtain ⟨whole, capacity, ran⟩ := ends
    have same : runAt world ((settings.withStack capacity).withLimit limit) 0 line s =
        runAt world ((settings.withStack capacity).withLimit (some n)) 0 line s := by
      refine runAt_withLimit higher fun hits => keeps ?_
      rwa [← ran]
    exact ⟨whole, capacity, same.trans ran⟩
  · obtain ⟨capacity, rfl, rfl⟩ := ends.on ends'
    rw [runAt_withLimit higher keeps]
  · obtain ⟨capacity, rfl, rfl⟩ := ends.on ends'
    exact grows

/-- A call inside a call: refused under the limit 1, after one call to the system shell. -/
theorem execute_nested_limits :
    let limited (n : Int) := Settings.withLimit {} (some n)
    let outer : Definition := ⟨['f'], [['x'], ['g']], false⟩
    let s : Session := ⟨['/'], 0, ⟨[outer, ⟨['g'], [['y']], true⟩]⟩, []⟩
    HitsLimit (runAt .quiet (limited 1) 0 ['f'] s) ∧
      (execute .quiet (limited 1) ['f'] s).2.calls = [⟨['x'], ['/'], true, none⟩] ∧
      (execute .quiet (limited 1) ['f'] s).2.calls <+:
        (execute .quiet (limited 3) ['f'] s).2.calls ∧
      ¬ HitsLimit (runAt .quiet (limited 2) 0 ['f'] s) ∧
      execute .quiet (limited 3) ['f'] s = execute .quiet (limited 2) ['f'] s := by
  intro limited outer s
  have hits : HitsLimit (runAt .quiet (limited 1) 0 ['f'] s) := ⟨['g'], 1, by decide +kernel⟩
  have keeps : ¬ HitsLimit (runAt .quiet (limited 2) 0 ['f'] s) := by
    rintro ⟨name, limit, h⟩
    cases h
  have higher (n : Int) (h : n ≤ 3) : ∀ m ∈ some (3 : Int), n ≤ m := by simpa using h
  have low := execute_withLimit .quiet {} (higher 1 (by decide)) ['f'] s
  have high := execute_withLimit .quiet {} (higher 2 (by decide)) ['f'] s
  exact ⟨hits, by decide +kernel, low.2.1 hits, keeps, high.1 keeps⟩

end Session
end MacroShell
