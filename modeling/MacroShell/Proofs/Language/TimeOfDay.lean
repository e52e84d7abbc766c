import MacroShell.Language.Generator
import MacroShell.Proofs.Calendar.Groups
import MacroShell.Proofs.Calendar.Literal
import MacroShell.Proofs.Language.Pipeline

/-!
# Times of day in pipelines

Seconds since 1970 become a date, a date gives up its time of day as a duration, and a duration its
seconds. All of it is exact: the text between two steps is read as what the step before has
written.
-/

namespace MacroShell

theorem Clock.withinLimit_seconds (c : Clock) : withinLimit c.seconds = true :=
  withinLimit_mono (Nat.le_of_lt c.seconds_lt) (by decide)

theorem Clock.withinLimit_days (c : Clock) : withinLimit (c.seconds / 86400) = true :=
  withinLimit_mono (Nat.div_le_self _ _) c.withinLimit_seconds

theorem Duration.ofClock?_clock (c : Clock) :
    ofClock? c.hour c.minute c.second = some (text c.seconds) := by
  have total : (c.hour * 3600 + c.minute * 60 + c.second : ℤ) = c.seconds := by
    simp only [Clock.seconds]
    omega
  rw [ofClock?, total, text?, Int.natAbs_natCast, if_pos c.withinLimit_days]

/-! ## Single conversions -/

namespace Converter

theorem inSeconds_of_read? {t : Text} {n : Nat} (h : Duration.read? t = some (n : Int))
    (within : withinLimit n = true) : inSeconds t = .done (naturalText n) := by
  rw [inSeconds, h, Option.bind_some, integerText?, Int.natAbs_natCast, if_pos within]
  rfl

theorem timeOfDay_of_read? {now : Moment} {t : Text} {stamp : Timestamp}
    (h : readMoment? now t = some stamp) :
    timeOfDay now t = .done (Duration.text stamp.moment.clock.seconds) := by
  simp only [timeOfDay, h, Duration.ofClock?_clock, written]

/-- Seconds since 1970 lead to a moment of the calendar, or past its end. -/
theorem after_epoch {t : Text} {n : Nat} (h : readInteger? t = some (n : Int)) :
    (n ≤ 253402300799 → ∃ m : Moment, after .epoch t = .done m.text ∧
      m.seconds = Moment.epoch.seconds + n ∧ m.clock.microsecond = 0) ∧
    (253402300799 < n → after .epoch t = .done t) := by
  have reached := @Moment.isSome_add?_iff .epoch n
  rw [Moment.seconds_epoch, Date.lastOrdinal] at reached
  rw [after, Duration.read?_of_readInteger? h]
  constructor
  · intro inside
    obtain ⟨m, added⟩ := Option.isSome_iff_exists.mp (reached.mpr (by omega))
    obtain ⟨seconds, micro⟩ := Moment.add?_eq_some_iff.mp added
    refine ⟨m, ?_, by omega, micro⟩
    simp only [added, Option.map_some, Option.getD_some]
  · intro outside
    have none : Moment.epoch.add? n = none := by
      rw [← Option.not_isSome_iff_eq_none, reached]
      omega
    simp only [none, Option.map_none, Option.getD_none]

end Converter

/-! ## Steps -/

namespace Pipeline

variable {now : Moment} {t : Text}

theorem step?_timeSec {n : Nat} (h : Duration.read? t = some (n : Int))
    (within : withinLimit n = true) (now : Moment) (typeName : Text) :
    step? now ⟨typeName, t⟩ "Time.Sec".toList = some ⟨Kind.time.name, naturalText n⟩ := by
  have found : Converter.ofKey? "Time.Sec".toList = some .timeSec := by decide
  exact step?_of_ofKey? (by decide) found (Or.inr (by decide))
    (Converter.inSeconds_of_read? h within)

/-- The time of day of a date in seconds. -/
theorem runSteps_timeOfDay {stamp : Timestamp} (h : readMoment? now t = some stamp) :
    runSteps now ⟨Kind.date.name, t⟩ ["Time".toList, "Time.Sec".toList] =
      ⟨⟨Kind.time.name, naturalText stamp.moment.clock.seconds⟩, none⟩ := by
  have dated : Value.kind? ⟨Kind.date.name, t⟩ = some .date := Kind.ofName?_name .date
  have taken := step?_time dated (Converter.timeOfDay_of_read? h)
  have written := Duration.read?_text stamp.moment.clock.withinLimit_days
  have read := step?_timeSec written stamp.moment.clock.withinLimit_seconds now Kind.time.name
  exact (runSteps_of_step? taken _).trans (runSteps_of_step? read [])

end Pipeline

/-- **Seconds since 1970 and dates correspond**, up to the last second of the calendar: the text of
the date is read back as the moment so much later, and the seconds of its day are what is left of
whole days. Past the calendar the text stays as it is. -/
theorem dateUtc_exact :
    (∀ n, withinLimit n = true → readInteger? (naturalText n) = some (n : Int)) ∧
    ∀ (now : Moment) (t : Text) (n : Nat), readInteger? t = some (n : Int) →
      (n ≤ 253402300799 →
        ∃ w m, Converter.dateUtc.apply now t = .done w ∧ readMoment? now w = some ⟨m, none⟩ ∧
          m.seconds = Moment.epoch.seconds + n ∧ m.clock.microsecond = 0 ∧
          ∀ typeName, Pipeline.run now typeName t (some "Date.UTC => Time => Time.Sec".toList) =
            ⟨⟨Kind.time.name, naturalText (n % 86400)⟩, none⟩) ∧
      (253402300799 < n → Converter.dateUtc.apply now t = .done t) := by
  refine ⟨fun n => readInteger?_naturalText, ?_⟩
  intro now t n known
  obtain ⟨inside, outside⟩ := Converter.after_epoch known
  refine ⟨?_, outside⟩
  intro bound
  obtain ⟨m, converted, seconds, micro⟩ := inside bound
  have read : readMoment? now m.text = some ⟨m, none⟩ := by
    have late : 1000 ≤ m.date.year := Moment.year_of_epoch_le (by omega)
    rw [readMoment?_of_isSpelling m.isSpelling_text, if_pos late,
      Moment.wholeSecond_eq_self_iff.mpr micro]
  refine ⟨m.text, m, converted, read, seconds, micro, ?_⟩
  intro typeName
  have split : Pipeline.steps "Date.UTC => Time => Time.Sec".toList =
      ["Date.UTC".toList, "Time".toList, "Time.Sec".toList] := by decide
  have found : Converter.ofKey? "Date.UTC".toList = some .dateUtc := by decide
  have first := @Pipeline.step?_of_ofKey? now ⟨canonicalName typeName, t⟩ _ _ _ (by decide) found
    (Or.inr (by decide)) converted
  have clock : m.clock.seconds = n % 86400 := by
    rw [← m.seconds_mod, seconds, Moment.seconds_epoch]
    omega
  rw [Pipeline.run_of_steps split, Pipeline.runSteps_of_step? first, ← clock]
  exact Pipeline.runSteps_timeOfDay read

/-- The last second of the calendar is reached, and no text is taken past it. -/
theorem dateUtc_exact_last :
    (∃ w m, Converter.dateUtc.apply .epoch "253402300799".toList = .done w ∧
      readMoment? .epoch w = some ⟨m, none⟩ ∧
      m.seconds = Moment.epoch.seconds + 253402300799 ∧ m.clock.microsecond = 0 ∧
      ∀ typeName, Pipeline.run .epoch typeName "253402300799".toList
        (some "Date.UTC => Time => Time.Sec".toList) =
          ⟨⟨Kind.time.name, "86399".toList⟩, none⟩) ∧
      Converter.dateUtc.apply .epoch "253402300800".toList = .done "253402300800".toList ∧
      readInteger? (naturalText 951782399) = some 951782399 := by
  obtain ⟨spelled, exact⟩ := dateUtc_exact
  have last := exact .epoch "253402300799".toList 253402300799 (by decide +kernel)
  have past := exact .epoch "253402300800".toList 253402300800 (by decide +kernel)
  exact ⟨last.1 (by decide), past.2 (by decide), spelled 951782399 (by decide)⟩

/-! ## The generators that tell the time -/

namespace Generator

variable {now : Moment}

theorem of_mem_timeText {c : Char} (h : c ∈ timeText now) : c.isDigit = true ∨ c ∈ "hms".toList := by
  simp only [timeText, List.append_assoc, List.cons_append, List.mem_append, List.mem_cons,
    List.not_mem_nil, or_false] at h
  rcases h with digit | rfl | digit | rfl | digit | rfl
  · exact Or.inl (isDigit_of_mem_naturalText digit)
  · exact Or.inr (by decide)
  · exact Or.inl (isDigit_of_mem_naturalText digit)
  · exact Or.inr (by decide)
  · exact Or.inl (isDigit_of_mem_naturalText digit)
  · exact Or.inr (by decide)

theorem trim_timeText : Text.trim (timeText now) = timeText now := by
  have units : "hms".toList.all (!isSpace ·) = true := by decide
  apply Text.trim_eq_self
  intro c mem
  rcases of_mem_timeText mem with digit | unit
  · exact isSpace_of_isDigit digit
  · exact Text.solid_of_all units c unit

theorem map_toLower_timeText : (timeText now).map Char.toLower = timeText now := by
  have units : "hms".toList.all (fun c => c.toLower == id c) = true := by decide
  conv_rhs => rw [← List.map_id (timeText now)]
  apply List.map_congr_left
  intro c mem
  rcases of_mem_timeText mem with digit | unit
  · exact Duration.toLower_of_isFigure (Or.inl (isDecimal_of_isDigit digit))
  · exact eq_of_beq (List.all_eq_true.mp units c unit)

theorem filter_isMark_timeText : (timeText now).filter isMark = "hms".toList := by
  have plain (n : Nat) : (naturalText n).filter isMark = [] :=
    filter_isMark_digits fun c => isDigit_of_mem_naturalText
  have marks : isMark 'h' = true ∧ isMark 'm' = true ∧ isMark 's' = true := by decide
  simp [timeText, plain, marks]

theorem read?_timeText : Duration.read? (timeText now) = some (now.clock.seconds : Int) := by
  have literal : isIntegerLiteral (timeText now).trim = false := by
    rw [trim_timeText, Bool.eq_false_iff]
    intro literal
    have unit : 'h' ∈ timeText now := by simp [timeText]
    exact absurd (of_isIntegerLiteral literal 'h' unit) (by decide)
  have hours : withinLimit now.clock.hour = true :=
    withinLimit_of_lt (Nat.lt_trans now.clock.hour_lt (by decide))
  have minutes : withinLimit now.clock.minute = true :=
    withinLimit_of_lt (Nat.lt_trans now.clock.minute_lt (by decide))
  have seconds : withinLimit now.clock.second = true :=
    withinLimit_of_lt (Nat.lt_trans now.clock.second_lt (by decide))
  have sum : Duration.sumGroups? .none (timeText now) = some now.clock.seconds := by
    simp only [timeText, List.append_assoc, List.cons_append]
    rw [Duration.sumGroups?_count 'h' rfl (by decide) hours,
      Duration.sumGroups?_count 'm' rfl (by decide) minutes,
      Duration.sumGroups?_count 's' rfl (by decide) seconds]
    simp only [Duration.sumGroups?, Option.map_some, Option.some.injEq, Clock.seconds]
    omega
  rw [Duration.read?_eq_sumGroups? literal, map_toLower_timeText, sum]
  rfl

theorem readMoment?_timeText (now today : Moment) : readMoment? today (timeText now) = none := by
  have others : ∀ layout ∈ Layout.dates ++ Layout.clocks, "hms".toList ≠ layout.marks := by decide
  apply readMoment?_eq_none
  · have short : (naturalText now.clock.hour).length ≤ 4 := by
      rw [length_naturalText_le_iff (by decide)]
      exact Nat.lt_trans now.clock.hour_lt (by decide)
    rw [trim_timeText]
    simp only [timeText, List.append_assoc, List.cons_append]
    exact Iso.read?_eq_none (fun c => isDigit_of_mem_naturalText) short (by decide) (by decide)
      (by decide)
  · intro layout mem
    apply Layout.read?_eq_none_of_marks (marks_known layout mem)
    rw [trim_timeText, filter_isMark_timeText]
    exact others layout mem

theorem isShape_timeText : Duration.isShape (timeText now) = true := by
  have digits (n : Nat) : ∀ c ∈ naturalText n, isDecimal c = true := fun c =>
    isDecimal_of_mem_naturalText
  have groups : Duration.isGroups false (timeText now) = true := by
    simp only [timeText, List.append_assoc, List.cons_append]
    rw [Duration.isGroups_count (naturalText_ne_nil _) (digits _) (by decide) (by decide),
      Duration.isGroups_count (naturalText_ne_nil _) (digits _) (by decide) (by decide),
      Duration.isGroups_count (naturalText_ne_nil _) (digits _) (by decide) (by decide)]
    rfl
  have last : (timeText now).getLast? = some 's' := List.getLast?_concat
  have filled : (timeText now).isEmpty = false := by simp [timeText]
  rw [Duration.isShape, Text.dropLineFeed, last, if_neg (by decide), Duration.isUnsigned, groups,
    filled]
  rfl

theorem detectKind_timeText (now today : Moment) : detectKind today (timeText now) = .time := by
  simp only [detectKind, trim_timeText, readMoment?_timeText, isShape_timeText]
  rfl

theorem isSpelling_dateText : now.IsSpelling (dateText now) :=
  ⟨_, naturalText_mem_spellings _, _, naturalText_mem_spellings _, _, naturalText_mem_spellings _,
    _, naturalText_mem_spellings _, _, naturalText_mem_spellings _, rfl⟩

theorem readMoment?_dateText (late : 1000 ≤ now.date.year) (today : Moment) :
    readMoment? today (dateText now) = some ⟨now.wholeSecond, none⟩ := by
  rw [readMoment?_of_isSpelling isSpelling_dateText, if_pos late]

theorem detectKind_dateText (late : 1000 ≤ now.date.year) (today : Moment) :
    detectKind today (dateText now) = .date := by
  have trimmed : Text.trim (dateText now) = dateText now := isSpelling_dateText.trim_eq_self
  simp only [detectKind, trimmed, readMoment?_dateText late]
  rfl

/-- A call that a generator takes is answered by its value, sent through the pipeline. -/
theorem dispatch_call {call name inside value : Text} {g : Generator} {p first : Text}
    {rest : List Text} (found : findCall? call = some (name, inside)) (named : ofName? name = some g)
    (given : g.value? now (arguments inside) = some value)
    (split : Pipeline.steps p = first :: rest) :
    dispatch now call (some p) =
      (Pipeline.runSteps now ⟨(detectKind now value).name, value⟩ (first :: rest)).value.text := by
  have solid : p.isBlank = false := by
    rw [Bool.eq_false_iff]
    intro blank
    rw [Pipeline.steps_of_isBlank blank] at split
    cases split
  have made : generate now name (arguments inside) = value := by
    rw [generate, named, Option.bind_some, given]
    rfl
  have whole : Pipeline.evaluate now (detectKind now value).name value (some p) =
      (Pipeline.runSteps now ⟨(detectKind now value).name, value⟩ (first :: rest)).value.text := by
    rw [Pipeline.evaluate, Pipeline.run_of_steps split, canonicalName_name]
  simp only [dispatch, found, made, Option.filter_some, solid, ← whole]
  rfl

section
variable {p first : Text} {rest : List Text} (split : Pipeline.steps p = first :: rest)
include split

theorem dispatch_gettime (now : Moment) :
    dispatch now "gettime(Now)".toList (some p) =
      (Pipeline.runSteps now ⟨Kind.time.name, timeText now⟩ (first :: rest)).value.text := by
  have found : findCall? "gettime(Now)".toList = some ("gettime".toList, "Now".toList) := by decide
  have named : ofName? "gettime".toList = some gettime := by decide
  have given : gettime.value? now (arguments "Now".toList) = some (timeText now) := by
    have asked : isNow (arguments "Now".toList) = true := by decide
    rw [value?, asked]
    rfl
  rw [dispatch_call found named given split, detectKind_timeText]

theorem dispatch_getdate (late : 1000 ≤ now.date.year) :
    dispatch now "getdate(Now)".toList (some p) =
      (Pipeline.runSteps now ⟨Kind.date.name, dateText now⟩ (first :: rest)).value.text := by
  have found : findCall? "getdate(Now)".toList = some ("getdate".toList, "Now".toList) := by decide
  have named : ofName? "getdate".toList = some getdate := by decide
  have given : getdate.value? now (arguments "Now".toList) = some (dateText now) := by
    have asked : isNow (arguments "Now".toList) = true := by decide
    rw [value?, asked]
    rfl
  rw [dispatch_call found named given split, detectKind_dateText late]

end

/-- **The generators agree on the time of day.** Both texts are detected for what they are, and the
seconds of the day come out of either of them; the date comes out in its canonical form. -/
theorem generators_agree (now : Moment) (h : 1000 ≤ now.date.year) :
    let seconds := naturalText (3600 * now.clock.hour + 60 * now.clock.minute + now.clock.second)
    dispatch now "gettime(Now)".toList (some "Time.Sec".toList) = seconds ∧
      dispatch now "getdate(Now)".toList (some "Time => Time.Sec".toList) = seconds ∧
      dispatch now "getdate(Now)".toList (some "Date".toList) = now.text ∧
      detectKind now (timeText now) = .time ∧ detectKind now (dateText now) = .date := by
  intro seconds
  have read := readMoment?_dateText h now
  refine ⟨?_, ?_, ?_, detectKind_timeText now now, detectKind_dateText h now⟩
  · have split : Pipeline.steps "Time.Sec".toList = ["Time.Sec".toList] := by decide
    have sec := Pipeline.step?_timeSec read?_timeText now.clock.withinLimit_seconds now
      Kind.time.name
    rw [dispatch_gettime split, Pipeline.runSteps_of_step? sec]
    rfl
  · have split : Pipeline.steps "Time => Time.Sec".toList = ["Time".toList, "Time.Sec".toList] := by
      decide
    rw [dispatch_getdate split h, Pipeline.runSteps_timeOfDay read]
    rfl
  · have split : Pipeline.steps "Date".toList = ["Date".toList] := by decide
    have found : Converter.ofKey? "Date".toList = some .date := by decide
    have written : Converter.date.apply now (dateText now) = .done now.text := by
      rw [Converter.apply, Converter.normaliseDate, read]
      rfl
    have step := @Pipeline.step?_of_ofKey? now ⟨Kind.date.name, dateText now⟩ _ _ _ (by decide) found
      (Or.inr (by decide)) written
    rw [dispatch_getdate split h, Pipeline.runSteps_of_step? step]
    rfl

/-- Half past nine on a leap day. -/
theorem generators_agree_leapDay :
    let now : Moment := ⟨⟨2024, 2, 29, by decide, by decide, by decide⟩,
      9, 30, 5, 123456, by decide, by decide, by decide, by decide⟩
    1000 ≤ now.date.year ∧
      dispatch now "gettime(Now)".toList (some "Time.Sec".toList) = "34205".toList ∧
      dispatch now "getdate(Now)".toList (some "Time => Time.Sec".toList) = "34205".toList ∧
      dispatch now "getdate(Now)".toList (some "Date".toList) = "2024/02/29 09:30:05".toList := by
  intro now
  have late : 1000 ≤ now.date.year := by decide
  have seconds : naturalText (3600 * 9 + 60 * 30 + 5) = "34205".toList := by decide
  have canonical : now.text = "2024/02/29 09:30:05".toList := by decide
  obtain ⟨time, date, text, -⟩ := generators_agree now late
  exact ⟨late, time.trans seconds, date.trans seconds, text.trans canonical⟩

end Generator
end MacroShell
