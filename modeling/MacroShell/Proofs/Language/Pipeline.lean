import MacroShell.Language.Pipeline
import MacroShell.Proofs.Text.Case
import MacroShell.Proofs.Text.Space

/-!
# Runs of pipelines

A run of two joined pipelines is a run of the first and then, unless it stopped, a run of the second
from the value reached. The type name that the seed came with is forgotten by then: no step but
`Time` looks at it, and the first one applied replaces it.
-/

namespace MacroShell

/-! ## The type named by a step -/

theorem Kind.ofName?_name (k : Kind) : Kind.ofName? k.name = some k := by
  cases k <;> decide

theorem canonicalName_name (k : Kind) : canonicalName k.name = k.name := by
  rw [canonicalName, Kind.ofName?_name]

theorem Kind.ofName?_canonicalName (t : Text) : ofName? (canonicalName t) = ofName? t := by
  unfold canonicalName
  cases named : ofName? t with
  | none => exact named
  | some k => exact ofName?_name k

namespace Converter

theorem takeWhile_lower_key (c : Converter) :
    c.key.lower.takeWhile (· != '.') = c.source.name.lower := by
  cases c <;> decide

theorem sigma_notMem_lower_key (c : Converter) : 'σ' ∉ c.key.lower ∧ 'ς' ∉ c.key.lower := by
  cases c <;> decide

theorem any_isSpace_lower_name (k : Kind) : k.name.lower.any isSpace = false := by
  cases k <;> decide

theorem canonicalName_takeWhile {step : Text} {c : Converter} (trimmed : step.trim = step)
    (h : ofKey? step = some c) : canonicalName (step.takeWhile (· != '.')) = c.source.name := by
  have key : c.key.lower = step.lower := by
    have found := List.find?_some h
    rw [trimmed, decide_eq_true_eq] at found
    exact found
  have noSigma : 'Σ' ∉ step := by
    intro mem
    have small : 'σ' ∈ step.lower ∨ 'ς' ∈ step.lower := Text.mem_lowerAfter_of_sigma mem []
    rw [← key] at small
    exact small.elim c.sigma_notMem_lower_key.1 c.sigma_notMem_lower_key.2
  have front : Text.lower (step.takeWhile (· != '.')) = c.source.name.lower := by
    rw [Text.lower_takeWhile noSigma, ← key, takeWhile_lower_key]
  -- Space would still be there in small letters, and no name has any.
  have solid : ∀ d ∈ step.takeWhile (· != '.'), isSpace d = false := by
    intro d mem
    rw [Bool.eq_false_iff]
    intro space
    have other : d ≠ 'Σ' := by
      rintro rfl
      exact absurd space (by decide)
    have kept := Text.mem_lower (smallForm_of_isSpace space) other mem
    rw [front] at kept
    exact List.any_eq_false.mp (any_isSpace_lower_name c.source) d kept space
  have named : Kind.ofName? (step.takeWhile (· != '.')) = some c.source := by
    have same : c.source.name.trim = c.source.name := by cases c.source <;> decide
    rw [← Kind.ofName?_name, Kind.ofName?, Kind.ofName?, Text.trim_eq_self solid, front, same]
  rw [canonicalName, named]

end Converter

/-! ## Arrows -/

namespace Text

theorem splitArrows_cons {c : Char} {rest : Text} (h : c = '=' → rest.head? ≠ some '>') :
    splitArrows (c :: rest) = consHead c (splitArrows rest) := by
  apply splitArrows.eq_3
  rintro _ rfl rfl
  exact h rfl rfl

theorem splitArrows_ne_nil (t : Text) : t.splitArrows ≠ [] := by
  cases t using splitArrows.fun_cases with
  | case1 => simp [splitArrows]
  | case2 rest => simp [splitArrows]
  | case3 c rest other =>
    rw [splitArrows.eq_3 _ _ other]
    cases splitArrows rest <;> simp [consHead]

theorem splitArrows_eq_singleton {t : Text} (h : '=' ∉ t) : t.splitArrows = [t] := by
  induction t with
  | nil => rfl
  | cons c rest ih =>
    have plain : c = '=' → rest.head? ≠ some '>' := by
      rintro rfl
      exact absurd List.mem_cons_self h
    rw [splitArrows_cons plain, ih (List.not_mem_of_not_mem_cons h)]
    rfl

/-- An arrow behind a text is read as an arrow, whatever the text ends in. -/
theorem splitArrows_arrow (p q : Text) :
    splitArrows (p ++ '=' :: '>' :: q) = p.splitArrows ++ q.splitArrows := by
  induction p using splitArrows.induct with
  | case1 => rfl
  | case2 rest ih =>
    rw [List.cons_append, List.cons_append, splitArrows, splitArrows, ih, List.cons_append]
  | case3 c rest other ih =>
    have plain : c = '=' → rest.head? ≠ some '>' := by
      rintro rfl head
      obtain ⟨tail, rfl⟩ := List.head?_eq_some_iff.mp head
      exact other tail rfl rfl
    have behind : c = '=' → (rest ++ '=' :: '>' :: q).head? ≠ some '>' := by
      intro equals
      cases rest with
      | nil => simp
      | cons d tail => simpa using plain equals
    rw [List.cons_append, splitArrows_cons plain, splitArrows_cons behind, ih]
    cases pieces : splitArrows rest with
    | nil => exact absurd pieces (splitArrows_ne_nil rest)
    | cons piece pieces => rfl

end Text

namespace Pipeline

theorem steps_arrow (p q : Text) : steps (p ++ '=' :: '>' :: q) = steps p ++ steps q := by
  rw [steps, Text.splitArrows_arrow, List.map_append, List.filter_append]
  rfl

theorem steps_of_isBlank {p : Text} (h : p.isBlank = true) : steps p = [] := by
  have whole : p.splitArrows = [p] :=
    Text.splitArrows_eq_singleton (Text.notMem_of_isBlank (by decide) h)
  rw [steps, whole, List.map_singleton, Text.trim_eq_nil_iff.mpr h]
  rfl

theorem trim_of_mem_steps {p step : Text} (h : step ∈ steps p) : step.trim = step := by
  obtain ⟨piece, -, rfl⟩ := List.mem_map.mp (List.mem_filter.mp h).1
  exact Text.trim_trim piece

/-! ## Single steps -/

section
variable {now : Moment} {value : Value} {step text : Text} {c : Converter}

theorem step?_of_resolve? {key typeName : Text}
    (resolved : resolve? value step = some (key, typeName)) (found : Converter.ofKey? key = some c)
    (applied : c.apply now value.text = .done text) :
    step? now value step = some ⟨typeName, text⟩ := by
  have converted : convert? now key value.text = some text := by
    rw [convert?, found, Option.map_some, applied]
  simp only [step?, resolved, Option.bind_eq_bind, Option.bind_some, converted]

/-- A step under the key of a converter applies it, unless it takes the time of day out of a
date. -/
theorem step?_of_ofKey? (trimmed : step.trim = step) (found : Converter.ofKey? step = some c)
    (plain : value.kind? ≠ some .date ∨ step ≠ Kind.time.name)
    (applied : c.apply now value.text = .done text) :
    step? now value step = some ⟨c.source.name, text⟩ := by
  have other : (value.kind? = some .date && step = Kind.time.name) = false := by
    rw [Bool.and_eq_false_iff, decide_eq_false_iff_not, decide_eq_false_iff_not]
    exact plain
  refine step?_of_resolve? ?_ found applied
  rw [resolve?, other, found, ← Converter.canonicalName_takeWhile trimmed found]
  rfl

/-- The step `Time` takes the time of day out of a date. -/
theorem step?_time (dated : value.kind? = some .date)
    (applied : Converter.timeOfDay now value.text = .done text) :
    step? now value Kind.time.name = some ⟨Kind.time.name, text⟩ := by
  have found : Converter.ofKey? Converter.dateTime.key = some .dateTime := by decide
  refine step?_of_resolve? ?_ found applied
  rw [resolve?, dated]
  rfl

end

/-! ## Runs -/

theorem resolve?_typeName {value : Value} {step key typeName : Text} (trimmed : step.trim = step)
    (h : resolve? value step = some (key, typeName)) : ∃ k : Kind, typeName = k.name := by
  unfold resolve? at h
  split at h
  · obtain ⟨-, rfl⟩ := Prod.mk.inj (Option.some.inj h)
    exact ⟨.time, rfl⟩
  · split at h
    · rename_i known
      obtain ⟨c, found⟩ := Option.isSome_iff_exists.mp known
      obtain ⟨-, rfl⟩ := Prod.mk.inj (Option.some.inj h)
      exact ⟨c.source, Converter.canonicalName_takeWhile trimmed found⟩
    · cases h

theorem step?_typeName {now : Moment} {value next : Value} {step : Text}
    (trimmed : step.trim = step) (h : step? now value step = some next) :
    ∃ k : Kind, next.typeName = k.name := by
  unfold step? at h
  obtain ⟨⟨key, typeName⟩, resolved, h⟩ := Option.bind_eq_some_iff.mp h
  obtain ⟨text, -, h⟩ := Option.bind_eq_some_iff.mp h
  obtain rfl := Option.some.inj h
  exact resolve?_typeName trimmed resolved

theorem runSteps_cons (now : Moment) (value : Value) (step : Text) (rest : List Text) :
    runSteps now value (step :: rest) =
      match step? now value step with
      | some next => runSteps now next rest
      | none => ⟨value, some step⟩ := rfl

theorem runSteps_typeName {now : Moment} {steps : List Text} {value : Value}
    (trimmed : ∀ step ∈ steps, step.trim = step) (h : ∃ k : Kind, value.typeName = k.name) :
    ∃ k : Kind, (runSteps now value steps).value.typeName = k.name := by
  induction steps generalizing value with
  | nil => exact h
  | cons step rest ih =>
    obtain ⟨first, others⟩ := List.forall_mem_cons.mp trimmed
    rw [runSteps_cons]
    split
    · rename_i next applied
      exact ih others (step?_typeName first applied)
    · exact h

theorem runSteps_of_step? {now : Moment} {value next : Value} {step : Text}
    (applied : step? now value step = some next) (rest : List Text) :
    runSteps now value (step :: rest) = runSteps now next rest := by
  rw [runSteps_cons, applied]

theorem runSteps_append (now : Moment) (value : Value) (first second : List Text) :
    runSteps now value (first ++ second) =
      if (runSteps now value first).completed then
        runSteps now (runSteps now value first).value second
      else runSteps now value first := by
  induction first generalizing value with
  | nil => rfl
  | cons step rest ih =>
    rw [List.cons_append, runSteps_cons, runSteps_cons]
    cases step? now value step with
    | some next => exact ih next
    | none => rfl

theorem run_eq_runSteps {p : Text} (h : steps p ≠ []) (now : Moment) (typeName text : Text) :
    run now typeName text (some p) = runSteps now ⟨canonicalName typeName, text⟩ (steps p) := by
  have solid : p.isBlank = false := by
    rw [Bool.eq_false_iff]
    exact fun blank => h (steps_of_isBlank blank)
  rw [run, Option.filter_some, solid]
  rfl

theorem run_of_steps {p first : Text} {rest : List Text} (split : steps p = first :: rest)
    (now : Moment) (typeName text : Text) :
    run now typeName text (some p) = runSteps now ⟨canonicalName typeName, text⟩ (first :: rest) := by
  have started : steps p ≠ [] := by simp [split]
  rw [run_eq_runSteps started, split]

theorem run_typeName {p first : Text} {rest : List Text} (split : steps p = first :: rest)
    {now : Moment} {typeName text : Text}
    (applied : (step? now ⟨canonicalName typeName, text⟩ first).isSome = true) :
    ∃ k : Kind, (run now typeName text (some p)).value.typeName = k.name := by
  obtain ⟨next, taken⟩ := Option.isSome_iff_exists.mp applied
  have trimmed : ∀ step ∈ first :: rest, step.trim = step := by
    intro step mem
    rw [← split] at mem
    exact trim_of_mem_steps mem
  obtain ⟨here, others⟩ := List.forall_mem_cons.mp trimmed
  have started : steps p ≠ [] := by simp [split]
  rw [run_eq_runSteps started, split, runSteps_of_step? taken]
  exact runSteps_typeName others (step?_typeName here taken)

theorem run_arrow_of_stopped {p q : Text} (hp : steps p ≠ []) {now : Moment}
    {typeName text : Text} (stopped : (run now typeName text (some p)).completed = false) :
    run now typeName text (some (p ++ '=' :: '>' :: q)) = run now typeName text (some p) := by
  have joined : steps (p ++ '=' :: '>' :: q) ≠ [] := by simp [steps_arrow, hp]
  rw [run_eq_runSteps hp] at stopped
  rw [run_eq_runSteps joined, run_eq_runSteps hp, steps_arrow, runSteps_append, stopped]
  rfl

theorem run_arrow_of_completed {p q : Text} (hp : steps p ≠ []) (hq : steps q ≠ [])
    {now : Moment} {typeName text : Text} {between : Value}
    (completed : run now typeName text (some p) = ⟨between, none⟩) :
    run now typeName text (some (p ++ '=' :: '>' :: q)) =
      run now between.typeName between.text (some q) := by
  have joined : steps (p ++ '=' :: '>' :: q) ≠ [] := by simp [steps_arrow, hp]
  obtain ⟨first, rest, split⟩ := List.exists_cons_of_ne_nil hp
  have applied : (step? now ⟨canonicalName typeName, text⟩ first).isSome = true := by
    rw [run_eq_runSteps hp, split, runSteps_cons] at completed
    cases taken : step? now ⟨canonicalName typeName, text⟩ first with
    | some next => rfl
    | none => simp [taken] at completed
  -- The name reached is in the vocabulary, so that the second run takes it up as it is.
  have kept : canonicalName between.typeName = between.typeName := by
    obtain ⟨k, named⟩ := run_typeName split applied
    rw [completed] at named
    rw [named, canonicalName_name]
  rw [run_eq_runSteps hp] at completed
  rw [run_eq_runSteps joined, run_eq_runSteps hq, steps_arrow, runSteps_append, completed, kept]
  rfl

/-- **Pipelines behind each other run one after another.** An arrow between two pipelines puts
their steps together. If the first has ended, the second goes on from its type and text, and if it
has stopped, that is the end. Once a step has been applied, the type is one of the vocabulary. -/
theorem run_joined (p q : Text) :
    steps (p ++ "=>".toList ++ q) = steps p ++ steps q ∧
      ∀ now typeName text,
        (steps p ≠ [] → steps q ≠ [] →
          (∀ between : Value, run now typeName text (some p) = ⟨between, none⟩ →
            run now typeName text (some (p ++ "=>".toList ++ q)) =
              run now between.typeName between.text (some q)) ∧
          ((run now typeName text (some p)).completed = false →
            run now typeName text (some (p ++ "=>".toList ++ q)) =
              run now typeName text (some p))) ∧
        ∀ first rest, steps p = first :: rest →
          (step? now ⟨canonicalName typeName, text⟩ first).isSome = true →
          ∃ k : Kind, (run now typeName text (some p)).value.typeName = k.name := by
  have joined : p ++ "=>".toList ++ q = p ++ '=' :: '>' :: q := List.append_assoc p _ q
  rw [joined]
  refine ⟨steps_arrow p q, fun now typeName text => ⟨fun hp hq => ⟨?_, ?_⟩, ?_⟩⟩
  · intro between completed
    exact run_arrow_of_completed hp hq completed
  · intro stopped
    exact run_arrow_of_stopped hp stopped
  · intro first rest split applied
    exact run_typeName split applied

/-- A number goes through two pipelines that meet in a row of arrows, and it does not get past a
step for truth values. -/
theorem run_joined_arrows :
    let p : Text := "NUMBER.abs => =>".toList
    let q : Text := "=> Time.Min =>".toList
    let refusing : Text := "Boolean.Not".toList
    let seed : Text := "-420".toList
    run .epoch " number ".toList seed (some (p ++ "=>".toList ++ q)) =
        ⟨⟨Kind.time.name, ['7']⟩, none⟩ ∧
      (run .epoch [] seed (some (refusing ++ "=>".toList ++ q))) =
        ⟨⟨[], seed⟩, some refusing⟩ ∧
      ∃ k : Kind, (run .epoch [] seed (some p)).value.typeName = k.name := by
  intro p q refusing seed
  have between : run .epoch " number ".toList seed (some p) =
      ⟨⟨Kind.number.name, "420".toList⟩, none⟩ := by decide +kernel
  have stopped : run .epoch [] seed (some refusing) = ⟨⟨[], seed⟩, some refusing⟩ := by
    decide +kernel
  have last : run .epoch Kind.number.name "420".toList (some q) =
      ⟨⟨Kind.time.name, ['7']⟩, none⟩ := by decide +kernel
  have both := ((run_joined p q).2 .epoch " number ".toList seed).1 (by decide) (by decide)
  have none := ((run_joined refusing q).2 .epoch [] seed).1 (by decide) (by decide)
  have named := ((run_joined p q).2 .epoch [] seed).2 "NUMBER.abs".toList [] (by decide)
    (by decide +kernel)
  exact ⟨(both.1 _ between).trans last, (none.2 (by rw [stopped]; rfl)).trans stopped, named⟩

/-! ## The type of the seed -/

/-- Values of one text that a step cannot tell apart: it is not `Time`, or both of them are dates,
or neither is. -/
def AlikeTo (step : Text) (a b : Value) : Prop :=
  a.text = b.text ∧ (step ≠ Kind.time.name ∨ (a.kind? = some .date ↔ b.kind? = some .date))

theorem AlikeTo.step? {step : Text} {a b : Value} (h : AlikeTo step a b) (now : Moment) :
    step? now a step = Pipeline.step? now b step := by
  obtain ⟨text, kinds⟩ := h
  have same : (decide (a.kind? = some .date) && decide (step = Kind.time.name)) =
      (decide (b.kind? = some .date) && decide (step = Kind.time.name)) := by
    rcases kinds with other | kinds
    · simp [other]
    · simp [kinds]
  simp only [Pipeline.step?, resolve?, same, text]

/-- **Values that are alike to the first step run alike.** The first step replaces both by one and
the same value, or stops both runs where they are. -/
theorem AlikeTo.runSteps {first : Text} {a b : Value} (h : AlikeTo first a b) (now : Moment)
    (rest : List Text) :
    (∃ next, Pipeline.step? now a first = some next ∧ Pipeline.step? now b first = some next ∧
      Pipeline.runSteps now a (first :: rest) = Pipeline.runSteps now next rest ∧
      Pipeline.runSteps now b (first :: rest) = Pipeline.runSteps now next rest) ∨
    Pipeline.step? now a first = none ∧ Pipeline.step? now b first = none ∧
      Pipeline.runSteps now a (first :: rest) = ⟨a, some first⟩ ∧
      Pipeline.runSteps now b (first :: rest) = ⟨b, some first⟩ := by
  have same := h.step? now
  rw [Pipeline.runSteps, Pipeline.runSteps, ← same]
  cases Pipeline.step? now a first with
  | some next => exact Or.inl ⟨next, rfl, rfl, rfl, rfl⟩
  | none => exact Or.inr ⟨rfl, rfl, rfl, rfl⟩

/-- **The type of the seed matters only to a leading step `Time`.** Two names for it that both name
dates, or neither, and before any other step just any two names, lead to the same text and to the
same stop, and to the same type once a step has been applied. -/
theorem run_seedType {p first : Text} {rest : List Text} (split : steps p = first :: rest)
    {typeName typeName' : Text}
    (h : first ≠ "Time".toList ∨
      (Kind.ofName? typeName = some .date ↔ Kind.ofName? typeName' = some .date))
    (now : Moment) (text : Text) :
    let e := run now typeName text (some p)
    let e' := run now typeName' text (some p)
    e.value.text = e'.value.text ∧ e.completed = e'.completed ∧ e.stoppedAt = e'.stoppedAt ∧
      ((step? now ⟨canonicalName typeName, text⟩ first).isSome = true ∨
        (step? now ⟨canonicalName typeName', text⟩ first).isSome = true →
        e.value.typeName = e'.value.typeName) := by
  have alike : AlikeTo first ⟨canonicalName typeName, text⟩ ⟨canonicalName typeName', text⟩ := by
    refine ⟨rfl, ?_⟩
    rwa [Value.kind?, Value.kind?, Kind.ofName?_canonicalName, Kind.ofName?_canonicalName]
  have started : steps p ≠ [] := by simp [split]
  simp only [run_eq_runSteps started, split]
  rcases alike.runSteps now rest with ⟨next, -, -, one, other⟩ | ⟨none, none', one, other⟩
  · rw [one, other]
    exact ⟨rfl, rfl, rfl, fun _ => rfl⟩
  · rw [one, other, none, none']
    exact ⟨rfl, rfl, rfl, by simp⟩

/-- Two spellings of the type of dates take the time of day out of a date. -/
theorem run_seedType_date :
    let seed : Text := "2024-01-01 15:06:32".toList
    let p : Text := "Time => Time.Min => Nowhere".toList
    run .epoch "date".toList seed (some p) =
        ⟨⟨Kind.time.name, "907".toList⟩, some "Nowhere".toList⟩ ∧
      (run .epoch " DATE ".toList seed (some p)).value.text = "907".toList ∧
      (run .epoch " DATE ".toList seed (some p)).stoppedAt = some "Nowhere".toList ∧
      (run .epoch " DATE ".toList seed (some p)).value.typeName = Kind.time.name := by
  intro seed p
  have known : run .epoch "date".toList seed (some p) =
      ⟨⟨Kind.time.name, "907".toList⟩, some "Nowhere".toList⟩ := by decide +kernel
  have dates :
      Kind.ofName? "date".toList = some .date ↔ Kind.ofName? " DATE ".toList = some .date := by
    decide
  have split : steps p = ["Time".toList, "Time.Min".toList, "Nowhere".toList] := by decide
  have applied :
      (step? .epoch ⟨canonicalName "date".toList, seed⟩ "Time".toList).isSome = true := by
    decide +kernel
  obtain ⟨text, -, stop, type⟩ := run_seedType split (Or.inr dates) .epoch seed
  rw [known] at text stop type
  exact ⟨known, text.symm, stop.symm, (type (Or.inl applied)).symm⟩

/-- With a leading step `Time` it matters whether the seed is called a date. -/
example :
    (run .epoch "Date".toList "15:06".toList (some "Time".toList)).value.text = "15h6m".toList ∧
      (run .epoch "String".toList "15:06".toList (some "Time".toList)).value.text =
        "15:06".toList := by
  decide +kernel

end Pipeline
end MacroShell
