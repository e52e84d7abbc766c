import MacroShell.Language.Line
import MacroShell.Proofs.Language.Conversion
import MacroShell.Proofs.Language.Fault
import MacroShell.Proofs.Language.Numeral
import MacroShell.Proofs.Language.TimeOfDay

/-!
# Expansion with faults

The converters, the runs of pipelines, the generators and the expansion of lines are followed with
the faults that they may have. A converter catches that the calendar ends, and a pipeline whatever
else a converter fails of.
-/

namespace MacroShell
namespace Attempt

/-! ## Converters -/

section
variable {α : Type}

/-- Writes in another way what is read in a text; a text in which nothing is read is left alone. -/
def rewritten (found : Attempt (Option α)) (write : α → Attempt Text) (t : Text) :
    Attempt Conversion := do
  match ← found with
  | some a => .done <$> write a
  | none => .ok (.done t)

/-- A number past the digit limit on the way of a converter is a fault. -/
def ofConversion : Conversion → Attempt Conversion
  | .tooLong => .error .badValue
  | other => .ok other

theorem done_orFault (text? : Option Text) :
    Conversion.done <$> orFault .badValue text? = ofConversion (Converter.written text?) := by
  cases text? <;> rfl

theorem rewritten_some {write : α → Attempt Text} {a : α} {text? : Option Text}
    (writes : write a = orFault .badValue text?) (t : Text) :
    rewritten (.ok (some a)) write t = ofConversion (Converter.written text?) := by
  rw [← done_orFault, ← writes]
  rfl

end

def normaliseNumber (t : Text) : Attempt Conversion := rewritten (readInteger t) digits t

def normaliseTime (t : Text) : Attempt Conversion :=
  if Duration.isLiteral t then rewritten (readInteger t) durationText t else .ok (.done t)

def normaliseDate (now : Moment) (t : Text) : Attempt Conversion :=
  rewritten (readMoment now t) (fun stamp => .ok stamp.moment.text) t

def onNumber (operation : Number → Number) (t : Text) : Attempt Conversion :=
  rewritten (readNumber t) (fun n => numberText (operation n)) t

def roundNumber (t : Text) : Attempt Conversion :=
  rewritten (Option.filter Float.isFinite <$> readDecimal t) (fun x => do
    let d ← exactly x
    digits d.round) t

/-- Writes a number in floating point; any other text is refused. -/
def inFloat (t : Text) : Attempt Conversion := do
  match ← readDecimal t with
  | some x => .done <$> floatText x
  | none => .ok (.refused ("not a number: ".toList ++ t.quoted))

/-- Leaves a number alone; any other text becomes zero. -/
def orZero (t : Text) : Attempt Conversion := do
  let x ← readDecimal t
  .ok (.done (if x.isSome then t else ['0']))

def inSeconds (t : Text) : Attempt Conversion := do
  let n ← readDuration t
  .done <$> digits n

def inUnits (size : ℕ) (t : Text) : Attempt Conversion := do
  let n ← readDuration t
  let count ← nearest n size
  .done <$> digits count

def timeOfDay (now : Moment) (t : Text) : Attempt Conversion :=
  rewritten (readMoment now t) (fun stamp =>
    let c := stamp.moment.clock
    durationText (c.hour * 3600 + c.minute * 60 + c.second)) t

/-- The moment a duration after an origin; that the calendar ends is caught. -/
def after (origin : Moment) (t : Text) : Attempt Conversion :=
  rewritten (caught [.overflow] do
    let n ← readDuration t
    let d ← distance n
    later origin d) (fun m => .ok m.text) t

/-- What a converter makes of a text, with the faults it may have. The converters that are not
listed take texts apart or count their characters, which cannot fail. -/
def apply (now : Moment) : Converter → Text → Attempt Conversion
  | .number, t => normaliseNumber t
  | .time, t => normaliseTime t
  | .date, t => normaliseDate now t
  | .numberDouble, t => inFloat t
  | .numberAbs, t => onNumber Number.abs t
  | .numberNeg, t => onNumber Number.neg t
  | .numberRound, t => roundNumber t
  | .timeSec, t | .timeNumber, t => inSeconds t
  | .timeMin, t => inUnits 60 t
  | .timeHour, t => inUnits 3600 t
  | .timeDay, t => inUnits 86400 t
  | .stringNumber, t => orZero t
  | .dateTime, t => timeOfDay now t
  | .dateNow, t => after now t
  | .dateUtc, t => after .epoch t
  | .dateToday, t => after now.startOfDay t
  | c, t => .ok (c.apply now t)

section
variable (now : Moment) (t : Text)

theorem normaliseNumber_eq : normaliseNumber t = .ok (.done (Converter.normaliseNumber t)) := by
  rw [normaliseNumber, readInteger_eq, Converter.normaliseNumber]
  cases read : readInteger? t with
  | none => rfl
  | some n =>
    have within := withinLimit_of_readInteger? read
    have writes : digits n = orFault .badValue (some (integerText n)) := digits_eq within
    exact rewritten_some writes t

theorem normaliseTime_eq : normaliseTime t = ofConversion (Converter.normaliseTime t) := by
  rw [normaliseTime, readInteger_eq, Converter.normaliseTime]
  by_cases literal : Duration.isLiteral t = true
  · rw [if_pos literal, if_pos literal]
    cases readInteger? t with
    | none => rfl
    | some n => exact rewritten_some (durationText_eq n) t
  · rw [if_neg literal, if_neg literal]
    rfl

theorem normaliseDate_eq : normaliseDate now t = .ok (.done (Converter.normaliseDate now t)) := by
  rw [normaliseDate, readMoment_eq, Converter.normaliseDate]
  cases readMoment? now t <;> rfl

theorem onNumber_eq (operation : Number → Number) :
    onNumber operation t = ofConversion (Converter.onNumber operation t) := by
  rw [onNumber, readNumber_eq, Converter.onNumber]
  cases Number.read? t with
  | none => rfl
  | some n => exact rewritten_some (numberText_eq (operation n)) t

theorem roundNumber_eq : roundNumber t = ofConversion (Converter.roundNumber t) := by
  rw [roundNumber, readDecimal_eq, map_ok, Converter.roundNumber]
  cases readDecimal? t with
  | none => rfl
  | some x =>
    have finite := isFinite_eq x
    cases known : Dyadic.ofFloat? x with
    | none =>
      rw [known] at finite
      simp only [Option.filter_some, finite, Option.bind_some, known]
      rfl
    | some d =>
      rw [known] at finite
      simp only [Option.filter_some, finite, Option.isSome_some, if_true, Option.bind_some, known]
      exact rewritten_some (by rw [exactly, known]; rfl) t

theorem inFloat_eq : inFloat t = ofConversion (Converter.inFloat t) := by
  rw [inFloat, readDecimal_eq, Converter.inFloat, ok_bind]
  cases readDecimal? t with
  | none => rfl
  | some x =>
    simp only [floatText_eq]
    rfl

theorem orZero_eq :
    orZero t = .ok (.done (if (readDecimal? t).isSome then t else ['0'])) := by
  rw [orZero, readDecimal_eq]
  rfl

theorem onBoolean_eq (f : Bool → Text) :
    .ok (Converter.onBoolean f t) = ofConversion (Converter.onBoolean f t) := by
  rw [Converter.onBoolean]
  cases readBoolean? t <;> rfl

theorem inSeconds_eq : inSeconds t = ofConversion (Converter.inSeconds t) := by
  rw [inSeconds, readDuration_eq, Converter.inSeconds]
  cases Duration.read? t with
  | none => rfl
  | some n => exact done_orFault (integerText? n)

theorem inUnits_eq {size : ℕ} (positive : 0 < size) :
    inUnits size t = ofConversion (Converter.inUnits size t) := by
  rw [inUnits, readDuration_eq, Converter.inUnits]
  cases Duration.read? t with
  | none => rfl
  | some n =>
    simp only [orFault, nearest, if_neg positive.ne', ok_bind, Option.bind_some]
    exact done_orFault _

theorem timeOfDay_eq : timeOfDay now t = ofConversion (Converter.timeOfDay now t) := by
  rw [timeOfDay, readMoment_eq, Converter.timeOfDay]
  cases readMoment? now t with
  | none => rfl
  | some stamp => exact rewritten_some (durationText_eq _) t

/-- A distance that cannot be represented would lead out of the calendar, too. -/
theorem caught_distance (origin : Moment) (n : ℤ) :
    caught [.overflow] (distance n >>= later origin) = .ok (origin.add? n) := by
  rw [distance]
  by_cases near : (n / 86400).natAbs ≤ mostDays
  · rw [if_pos near]
    exact caught_orFault _ _
  · -- No two moments of the calendar are four million days apart.
    have here : (origin.add? 0).isSome = true := by
      rw [Moment.add?_eq_some_iff.mpr ⟨(add_zero _).symm, rfl⟩]
      rfl
    have inside := (Moment.isSome_add?_iff.mp here).2
    have none : origin.add? n = none := by
      rw [← Option.not_isSome_iff_eq_none, Moment.isSome_add?_iff]
      simp only [Date.lastOrdinal, mostDays] at *
      omega
    rw [if_neg near, none]
    rfl

theorem after_eq (origin : Moment) : after origin t = ofConversion (Converter.after origin t) := by
  rw [after, readDuration_eq, Converter.after]
  cases Duration.read? t with
  | none => rfl
  | some n =>
    simp only [orFault, ok_bind, caught_distance]
    cases origin.add? n <;> rfl

/-- **A converter fails where a number is past the digit limit**, and of nothing else. -/
theorem apply_eq (c : Converter) : apply now c t = ofConversion (c.apply now t) := by
  cases c with
  | number => exact normaliseNumber_eq t
  | time => exact normaliseTime_eq t
  | date => exact normaliseDate_eq now t
  | numberDouble => exact inFloat_eq t
  | numberAbs => exact onNumber_eq t Number.abs
  | numberNeg => exact onNumber_eq t Number.neg
  | numberRound => exact roundNumber_eq t
  | timeSec | timeNumber => exact inSeconds_eq t
  | timeMin => exact inUnits_eq t (by decide)
  | timeHour => exact inUnits_eq t (by decide)
  | timeDay => exact inUnits_eq t (by decide)
  | stringNumber => exact orZero_eq t
  | dateTime => exact timeOfDay_eq now t
  | dateNow => exact after_eq t now
  | dateUtc => exact after_eq t .epoch
  | dateToday => exact after_eq t now.startOfDay
  | booleanNot | booleanNumber => exact onBoolean_eq t _
  | string | boolean | numberLength | stringUpper | stringLower | stringLength | numberString => rfl

end

/-! ## Pipelines -/

/-- The faults at which a pipeline stops. -/
def stopping : List Fault := [.badValue, .overflow, .zeroDivisor]

/-- The text that the converter under a key makes; none if there is no such converter, if it refuses
the text, or if it fails of a fault at which pipelines stop. -/
def convert (now : Moment) (key text : Text) : Attempt (Option Text) :=
  match Converter.ofKey? key with
  | none => .ok none
  | some c => do
    match ← caught stopping (apply now c text) with
    | some (.done text) => .ok (some text)
    | _ => .ok none

/-- The value after one step, unless the step stops the run. -/
def step (now : Moment) (value : Value) (first : Text) : Attempt (Option Value) :=
  match Pipeline.resolve? value first with
  | none => .ok none
  | some (key, typeName) => Option.map (⟨typeName, ·⟩) <$> convert now key value.text

/-- Applies steps one after another until one of them stops the run. -/
def runSteps (now : Moment) (value : Value) : List Text → Attempt Pipeline.Ending
  | [] => .ok ⟨value, none⟩
  | first :: rest => do
    match ← step now value first with
    | some next => runSteps now next rest
    | none => .ok ⟨value, some first⟩

def run (now : Moment) (typeName text : Text) (pipeline : Option Text) :
    Attempt Pipeline.Ending :=
  let value : Value := ⟨canonicalName typeName, text⟩
  match pipeline.filter (!·.isBlank) with
  | none => do
    match ← convert now value.typeName value.text with
    | some text => .ok ⟨{ value with text := text }, none⟩
    | none => .ok ⟨value, none⟩
  | some pipeline => runSteps now value (Pipeline.steps pipeline)

def evaluate (now : Moment) (typeName text : Text) (pipeline : Option Text) : Attempt Text := do
  let ending ← run now typeName text pipeline
  .ok ending.value.text

section
variable {now : Moment} {value : Value} {key typeName text : Text} {c : Converter} {fault : Fault}

theorem apply_eq_error (h : apply now c text = .error fault) :
    fault = .badValue ∧ c.apply now text = .tooLong := by
  rw [apply_eq] at h
  cases made : c.apply now text with
  | tooLong =>
    rw [made] at h
    exact ⟨(Except.error.inj h).symm, rfl⟩
  | done | refused =>
    rw [made] at h
    cases h

/-- A pipeline catches whatever a converter fails of. -/
theorem convert_of_error (found : Converter.ofKey? key = some c)
    (failed : apply now c text = .error fault) : convert now key text = .ok none := by
  obtain ⟨rfl, -⟩ := apply_eq_error failed
  simp only [convert, found, failed]
  rfl

theorem step_of_error {first : Text}
    (resolved : Pipeline.resolve? value first = some (key, typeName))
    (found : Converter.ofKey? key = some c) (failed : apply now c value.text = .error fault) :
    step now value first = .ok none := by
  simp only [step, resolved, convert_of_error found failed]
  rfl

end

section
variable (now : Moment)

theorem convert_eq (key text : Text) :
    convert now key text = .ok (Pipeline.convert? now key text) := by
  unfold Pipeline.convert?
  cases found : Converter.ofKey? key with
  | none => simp only [convert, found, Option.map_none]
  | some c =>
    have applied := apply_eq now text c
    rw [Option.map_some]
    cases made : c.apply now text with
    | tooLong =>
      rw [made] at applied
      exact convert_of_error found applied
    | done | refused =>
      rw [made] at applied
      simp only [convert, found, applied]
      rfl

theorem step_eq (value : Value) (first : Text) :
    step now value first = .ok (Pipeline.step? now value first) := by
  unfold step Pipeline.step?
  cases Pipeline.resolve? value first with
  | none => rfl
  | some found =>
    obtain ⟨key, typeName⟩ := found
    simp only [convert_eq, Option.bind_eq_bind, Option.bind_some]
    cases Pipeline.convert? now key value.text <;> rfl

theorem runSteps_eq (value : Value) (steps : List Text) :
    runSteps now value steps = .ok (Pipeline.runSteps now value steps) := by
  induction steps generalizing value with
  | nil => rfl
  | cons first rest ih =>
    rw [runSteps, step_eq, Pipeline.runSteps_cons, ok_bind]
    cases Pipeline.step? now value first with
    | some next => exact ih next
    | none => rfl

theorem run_eq (typeName text : Text) (pipeline : Option Text) :
    run now typeName text pipeline = .ok (Pipeline.run now typeName text pipeline) := by
  simp only [run, Pipeline.run, Pipeline.normalise, convert_eq, runSteps_eq, ok_bind]
  cases pipeline.filter (!·.isBlank) with
  | some pipeline => rfl
  | none => cases Pipeline.convert? now (canonicalName typeName) text <;> rfl

theorem evaluate_eq (typeName text : Text) (pipeline : Option Text) :
    evaluate now typeName text pipeline = .ok (Pipeline.evaluate now typeName text pipeline) := by
  rw [evaluate, run_eq]
  rfl

end

/-! ## Generators -/

def timeText (now : Moment) : Attempt Text := do
  let hour ← digits now.clock.hour
  let minute ← digits now.clock.minute
  let second ← digits now.clock.second
  .ok (hour ++ 'h' :: minute ++ 'm' :: second ++ ['s'])

def dateText (now : Moment) : Attempt Text := do
  let year ← digits now.date.year
  let month ← digits now.date.month
  let day ← digits now.date.day
  let hour ← digits now.clock.hour
  let minute ← digits now.clock.minute
  let second ← digits now.clock.second
  .ok (year ++ '/' :: month ++ '/' :: day ++ ' ' :: hour ++ ':' :: minute ++ ':' :: second)

def isNow (arguments : List Text) : Attempt Bool :=
  if arguments.length = 1 then do
    let argument ← orFault .missing arguments[0]?
    .ok (argument.lower = "now".toList)
  else .ok false

def generated (now : Moment) : Generator → List Text → Attempt (Option Text)
  | .gettime, arguments => do
    if ← isNow arguments then some <$> timeText now else .ok none
  | .getdate, arguments => do
    if ← isNow arguments then some <$> dateText now else .ok none
  | .ifeo, arguments =>
    if arguments.length = 2 then do
      let image ← orFault .missing arguments[0]?
      let debugger ← orFault .missing arguments[1]?
      .ok (Generator.value? now .ifeo [image, debugger])
    else .ok none

def generate (now : Moment) (name : Text) (arguments : List Text) : Attempt Text :=
  match Generator.ofName? name with
  | none => .ok (Generator.unknown name)
  | some g => do
    let value ← generated now g arguments
    .ok (value.getD (Generator.unknown name))

/-- Replaces a text by the value of the first call in it, sent through a pipeline. -/
def dispatch (now : Moment) (call : Text) (pipeline : Option Text) : Attempt Text :=
  match Generator.findCall? call with
  | none => .ok call
  | some (name, inside) => do
    let value ← generate now name (Generator.arguments inside)
    match pipeline.filter (!·.isBlank) with
    | none => .ok value
    | some pipeline => do
      let kind ← detectKind now value
      evaluate now kind.name value (some pipeline)

section
variable (now : Moment)

theorem digits_field {n : ℕ} (small : n ≤ lastYear) : digits n = .ok (naturalText n) :=
  digits_eq (n := n) (withinLimit_mono small (by decide))

theorem timeText_eq : timeText now = .ok (Generator.timeText now) := by
  have hour := digits_field (now.clock.hour_lt.le.trans (by decide))
  have minute := digits_field (now.clock.minute_lt.le.trans (by decide))
  have second := digits_field (now.clock.second_lt.le.trans (by decide))
  rw [timeText, hour, minute, second]
  rfl

theorem dateText_eq : dateText now = .ok (Generator.dateText now) := by
  have year := digits_field now.date.year_range.2
  have month := digits_field (now.date.month_range.2.trans (by decide))
  have last := now.date.day_range.2.trans (Date.daysInMonth_le _ _)
  have day := digits_field (last.trans (by decide))
  have hour := digits_field (now.clock.hour_lt.le.trans (by decide))
  have minute := digits_field (now.clock.minute_lt.le.trans (by decide))
  have second := digits_field (now.clock.second_lt.le.trans (by decide))
  rw [dateText, year, month, day, hour, minute, second]
  rfl

theorem isNow_eq (arguments : List Text) : isNow arguments = .ok (Generator.isNow arguments) := by
  cases arguments with
  | nil => rfl
  | cons argument others => cases others <;> rfl

theorem generated_eq (g : Generator) (arguments : List Text) :
    generated now g arguments = .ok (g.value? now arguments) := by
  cases g with
  | gettime =>
    simp only [generated, isNow_eq, ok_bind, timeText_eq, Generator.value?]
    split <;> rfl
  | getdate =>
    simp only [generated, isNow_eq, ok_bind, dateText_eq, Generator.value?]
    split <;> rfl
  | ifeo =>
    cases arguments with
    | nil => rfl
    | cons image rest =>
      cases rest with
      | nil => rfl
      | cons debugger others => cases others <;> rfl

theorem generate_eq (name : Text) (arguments : List Text) :
    generate now name arguments = .ok (Generator.generate now name arguments) := by
  rw [generate, Generator.generate]
  cases Generator.ofName? name with
  | none => rfl
  | some g =>
    simp only [generated_eq]
    rfl

theorem dispatch_eq (call : Text) (pipeline : Option Text) :
    dispatch now call pipeline = .ok (Generator.dispatch now call pipeline) := by
  rw [dispatch, Generator.dispatch]
  cases Generator.findCall? call with
  | none => rfl
  | some found =>
    obtain ⟨name, inside⟩ := found
    simp only [generate_eq, detectKind_eq, evaluate_eq, ok_bind]
    cases pipeline.filter (!·.isBlank) <;> rfl

end

/-! ## Lines -/

def evaluateMacro (now : Moment) (m : Macro) : Attempt Text :=
  if m.isGenerator then dispatch now m.seed m.pipeline
  else if m.isImplicit then do
    let kind ← detectKind now m.seed
    evaluate now kind.name m.seed m.pipeline
  else evaluate now m.tag m.seed m.pipeline

def expandPieces (now : Moment) : List Piece → Attempt Text
  | [] => .ok []
  | .plain c :: rest => (c :: ·) <$> expandPieces now rest
  | .span m _ :: rest => do
    let value ← evaluateMacro now m
    (value ++ ·) <$> expandPieces now rest

def expand (now : Moment) (line : Text) : Attempt Text :=
  if line.isBlank then .ok line else expandPieces now (Line.pieces line)

theorem evaluateMacro_eq (now : Moment) (m : Macro) :
    evaluateMacro now m = .ok (m.evaluate now) := by
  simp only [evaluateMacro, Macro.evaluate, dispatch_eq, detectKind_eq, evaluate_eq, ok_bind]
  split_ifs <;> rfl

theorem expandPieces_eq (now : Moment) (pieces : List Piece) :
    expandPieces now pieces = .ok (pieces.flatMap (Line.expandPiece now)) := by
  induction pieces with
  | nil => rfl
  | cons piece rest ih =>
    cases piece with
    | plain c =>
      rw [expandPieces, ih]
      rfl
    | span m length =>
      rw [expandPieces, evaluateMacro_eq, ok_bind, ih]
      rfl

theorem expand_eq (now : Moment) (line : Text) : expand now line = .ok (Line.expand now line) := by
  rw [expand, Line.expand, expandPieces_eq]
  split <;> rfl

/-- A converter that normalises writes a text, whatever it is given. -/
theorem apply_normalising {c : Converter} (h : c.operation? = none) (now : Moment) (t : Text) :
    ∃ w, apply now c t = .ok (.done w) := by
  have done : ∃ w, c.apply now t = .done w := by
    cases c with
    | number => exact ⟨_, Converter.apply_number now t⟩
    | time => exact ⟨_, Converter.apply_time now t⟩
    | string => exact ⟨_, rfl⟩
    | boolean => exact ⟨_, rfl⟩
    | date => exact ⟨_, Converter.apply_date now t⟩
    | _ => cases h
  obtain ⟨w, made⟩ := done
  rw [apply_eq, made]
  exact ⟨w, rfl⟩

/-- **No line makes the expansion fail**, whatever its operations may fail of: it writes the text
that the expansion without faults does. Outside of pipelines no fault is left to catch, since
neither the detection of types nor a generator fails, and neither does a converter that normalises.
Where any other converter fails, its step stops the pipeline, which keeps the value reached
before. -/
theorem expand_unfailing (now : Moment) :
    (∀ line, expand now line = .ok (Line.expand now line)) ∧
    (∀ t, detectKind now t = .ok (MacroShell.detectKind now t)) ∧
    (∀ name arguments, generate now name arguments = .ok (Generator.generate now name arguments)) ∧
    (∀ (c : Converter) t, c.operation? = none → ∃ w, apply now c t = .ok (.done w)) ∧
    ∀ typeName text pipeline before first rest w key next c fault,
      Pipeline.steps pipeline = before ++ first :: rest →
      runSteps now ⟨canonicalName typeName, text⟩ before = .ok ⟨w, none⟩ →
      Pipeline.resolve? w first = some (key, next) → Converter.ofKey? key = some c →
      apply now c w.text = .error fault →
      run now typeName text (some pipeline) = .ok ⟨w, some first⟩ := by
  refine ⟨expand_eq now, detectKind_eq now, generate_eq now,
    fun c t normalises => apply_normalising normalises now t, ?_⟩
  intro typeName text pipeline before first rest w key next c fault split reached resolved found
    failed
  have stops : Pipeline.step? now w first = none := by
    have stopped := step_of_error resolved found failed
    rw [step_eq] at stopped
    exact Except.ok.inj stopped
  rw [runSteps_eq] at reached
  have started : Pipeline.steps pipeline ≠ [] := by simp [split]
  rw [run_eq, Pipeline.run_eq_runSteps started, split, Pipeline.runSteps_append,
    Except.ok.inj reached, Pipeline.runSteps_cons, stops]
  rfl

/-- A row of 4301 ones is no duration that could be normalised, and it cannot be read as seconds. -/
theorem expand_unfailing_long :
    let ones : Text := List.replicate 4301 '1'
    let p : Text := "Time => Time.Sec => Time.Min".toList
    apply .epoch .timeSec ones = .error .badValue ∧
      run .epoch "String".toList ones (some p) =
        .ok ⟨⟨Kind.time.name, ones⟩, some "Time.Sec".toList⟩ ∧
      ∃ w, apply .epoch .time ones = .ok (.done w) := by
  intro ones p
  obtain ⟨trimmed, sign, literal, -⟩ := Converter.row_of_ones 4300
  have number : isIntegerLiteral (Text.trim ones) = true := by rwa [trimmed]
  have unread : readInteger? ones = none := by
    refine Converter.readInteger?_of_long number ?_
    rw [trimmed, sign, List.length_replicate]
    decide
  have seconds : Duration.read? ones = none := by
    rw [Duration.read?_of_isIntegerLiteral number, unread]
  have failed : apply .epoch .timeSec ones = .error .badValue := by
    rw [apply_eq, Converter.apply, Converter.inSeconds, seconds]
    rfl
  have kept : Converter.time.apply .epoch ones = .done ones := by
    rw [Converter.apply_time, unread]
    rfl
  have known : Converter.ofKey? "Time".toList = some .time := by decide
  have first := @Pipeline.step?_of_ofKey? .epoch ⟨canonicalName "String".toList, ones⟩ _ _ _
    (by decide) known (Or.inl (by decide)) kept
  obtain ⟨-, -, -, normalises, stops⟩ := expand_unfailing .epoch
  have reached : runSteps .epoch ⟨canonicalName "String".toList, ones⟩ ["Time".toList] =
      .ok ⟨⟨Kind.time.name, ones⟩, none⟩ := by
    rw [runSteps_eq, Pipeline.runSteps_of_step? first]
    rfl
  have split : Pipeline.steps p = ["Time".toList] ++ "Time.Sec".toList :: ["Time.Min".toList] := by
    decide
  exact ⟨failed, stops _ _ _ _ _ _ _ _ _ _ _ split reached rfl (by decide) failed,
    normalises .time ones rfl⟩

end Attempt
end MacroShell
