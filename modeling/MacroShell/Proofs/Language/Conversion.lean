import Mathlib
import MacroShell.Language.Conversion
import MacroShell.Proofs.Calendar.Groups
import MacroShell.Proofs.Calendar.Literal
import MacroShell.Proofs.Number.Nearest

/-!
# Normal forms and larger units

The converters of integers, durations and dates write what they have read in one way, and leave
alone what they cannot read. Either way they find nothing more to do in what they have written.
-/

namespace MacroShell

/-! ## Integers among the durations -/

namespace Duration

variable {t : Text} {n : ℤ}

theorem isLiteral_of_isIntegerLiteral (literal : isIntegerLiteral t.trim = true) :
    isLiteral t = true := by
  have solid : t.isBlank = false := by
    rw [Bool.eq_false_iff]
    intro blank
    rw [Text.trim_eq_nil_iff.mpr blank] at literal
    cases literal
  rw [isLiteral, solid, literal]
  rfl

/-- Only integers have a sign. -/
theorem nonneg_of_read? (none : readInteger? t = none) (h : read? t = some n) : 0 ≤ n := by
  have other : isIntegerLiteral t.trim = false := by
    rw [Bool.eq_false_iff]
    intro literal
    rw [read?_of_isIntegerLiteral literal, none] at h
    cases h
  rw [read?_eq_sumGroups? other] at h
  obtain ⟨sum, -, rfl⟩ := Option.map_eq_some_iff.mp h
  exact Int.natCast_nonneg sum

theorem withinLimit_days_of_readInteger? (h : readInteger? t = some n) :
    withinLimit (n.natAbs / 86400) = true :=
  withinLimit_mono (Nat.div_le_self _ _) (withinLimit_of_readInteger? h)

theorem readInteger?_text (k : ℕ) : readInteger? (text k) = none :=
  readInteger?_of_not_literal (trim_text k) (isIntegerLiteral_text k)

end Duration

namespace Converter

/-! ## Normal forms -/

section
variable (now : Moment) (t : Text)

theorem apply_number : number.apply now t = .done (((readInteger? t).map integerText).getD t) := by
  cases known : readInteger? t <;> simp [apply, normaliseNumber, known]

/-- An integer is written as a duration, without its sign; no other text is changed. -/
theorem apply_time : time.apply now t =
    .done (((readInteger? t).map fun n => Duration.text n.natAbs).getD t) := by
  change normaliseTime t = _
  unfold normaliseTime
  cases known : readInteger? t with
  | none => simp
  | some n =>
    have literal := isIntegerLiteral_of_readInteger? known
    have days := Duration.withinLimit_days_of_readInteger? known
    rw [if_pos (Duration.isLiteral_of_isIntegerLiteral literal)]
    simp only [Duration.text?, days, if_true, written, Option.map_some, Option.getD_some]

theorem apply_date : date.apply now t =
    .done (((readMoment? now t).map fun stamp => stamp.moment.text).getD t) := by
  cases known : readMoment? now t <;> simp [apply, normaliseDate, known]

theorem number_normal : ∃ w, number.apply now t = .done w ∧ number.apply now w = .done w ∧
    readInteger? w = readInteger? t := by
  cases known : readInteger? t with
  | none => exact ⟨t, by simp [apply_number, known], by simp [apply_number, known], known⟩
  | some n =>
    have back := readInteger?_integerText (withinLimit_of_readInteger? known)
    exact ⟨_, by simp [apply_number, known], by simp [apply_number, back], back⟩

theorem time_normal : ∃ w, time.apply now t = .done w ∧ time.apply now w = .done w ∧
    ∀ n, Duration.read? t = some n → Duration.read? w = some |n| := by
  cases known : readInteger? t with
  | none =>
    refine ⟨t, by simp [apply_time, known], by simp [apply_time, known], ?_⟩
    intro n read
    rw [abs_of_nonneg (Duration.nonneg_of_read? known read), read]
  | some n =>
    have other := Duration.readInteger?_text n.natAbs
    refine ⟨Duration.text n.natAbs, by simp [apply_time, known], by simp [apply_time, other], ?_⟩
    intro m read
    rw [Duration.read?_of_readInteger? known, Option.some.injEq] at read
    subst read
    rw [Duration.read?_text (Duration.withinLimit_days_of_readInteger? known), Int.natCast_natAbs]

theorem date_normal : ∃ w, date.apply now t = .done w ∧ date.apply now w = .done w ∧
    ∀ stamp, readMoment? now t = some stamp → 1000 ≤ stamp.moment.date.year →
      readMoment? now w = some ⟨stamp.moment.wholeSecond, none⟩ := by
  cases known : readMoment? now t with
  | none => exact ⟨t, by simp [apply_date, known], by simp [apply_date, known], by simp⟩
  | some stamp =>
    have back := readMoment?_of_isSpelling stamp.moment.isSpelling_text now
    refine ⟨stamp.moment.text, by simp [apply_date, known], ?_, ?_⟩
    · -- Early years are not read back, and the part of a second that is lost is not written.
      rw [apply_date, back]
      split <;> rfl
    · rintro _ ⟨⟩ late
      rw [back, if_pos late]

end

/-- **Normal forms.** Each of the three converters writes a text, and applied to that text gives it
again. The integer read is the same before and after, the duration is the same up to its sign, and
the date, from year 1000 on, up to its offset and its part of a second. -/
theorem normalForms (now : Moment) (t : Text) :
    (∃ w, number.apply now t = .done w ∧ number.apply now w = .done w ∧
      readInteger? w = readInteger? t) ∧
    (∃ w, time.apply now t = .done w ∧ time.apply now w = .done w ∧
      ∀ n, Duration.read? t = some n → Duration.read? w = some |n|) ∧
    ∃ w, date.apply now t = .done w ∧ date.apply now w = .done w ∧
      ∀ stamp, readMoment? now t = some stamp → 1000 ≤ stamp.moment.date.year →
        readMoment? now w = some ⟨stamp.moment.wholeSecond, none⟩ :=
  ⟨number_normal now t, time_normal now t, date_normal now t⟩

/-- A signed integer in digits of another script, and a date with a part of a second and an
offset. -/
theorem normalForms_signed :
    let seconds : Text := " -٠٩٠ ".toList
    let stamp : Text := "2024-02-29T13:05:09.5+01:00".toList
    let moment : Moment := ⟨⟨2024, 2, 29, by decide, by decide, by decide⟩,
      13, 5, 9, 500000, by decide, by decide, by decide, by decide⟩
    Duration.read? seconds = some (-90) ∧
    readMoment? .epoch stamp = some ⟨moment, some 3600000000⟩ ∧
    (∃ w, number.apply .epoch seconds = .done w ∧ number.apply .epoch w = .done w ∧
      readInteger? w = readInteger? seconds) ∧
    (∃ w, time.apply .epoch seconds = .done w ∧ time.apply .epoch w = .done w ∧
      Duration.read? w = some 90) ∧
    ∃ w, date.apply .epoch stamp = .done w ∧ date.apply .epoch w = .done w ∧
      readMoment? .epoch w = some ⟨moment.wholeSecond, none⟩ := by
  intro seconds stamp moment
  have duration : Duration.read? seconds = some (-90) := by decide
  have dated : readMoment? .epoch stamp = some ⟨moment, some 3600000000⟩ := by decide +kernel
  obtain ⟨numbers, ⟨w, done, again, kept⟩, -⟩ := normalForms .epoch seconds
  obtain ⟨-, -, d, doneDate, againDate, keptDate⟩ := normalForms .epoch stamp
  exact ⟨duration, dated, numbers, ⟨w, done, again, kept _ duration⟩,
    d, doneDate, againDate, keptDate _ dated (by decide)⟩

/-! ## Larger units -/

/-- The nearest integer of a quotient is the only one that is so near, and even at equal
distance. -/
theorem roundQuotient_eq_iff {n q : ℤ} {size : ℕ} (positive : 0 < size) :
    roundQuotient n size = q ↔
      2 * |n - q * size| ≤ size ∧ (2 * |n - q * size| = size → Even q) := by
  have nearest := isNearest_roundQuotient n positive
  rw [← isNearest_div_iff positive]
  constructor
  · rintro rfl
    exact nearest
  · intro near
    exact nearest.unique near

theorem roundQuotient_mono {size : ℕ} (positive : 0 < size) :
    Monotone fun n => roundQuotient n size := by
  intro m n le
  have ratio : (m : ℚ) / size ≤ n / size :=
    div_le_div_of_nonneg_right (by exact_mod_cast le) (Nat.cast_nonneg size)
  exact (isNearest_roundQuotient m positive).le (isNearest_roundQuotient n positive) ratio

def largerUnits : List (Converter × ℕ) := [(timeMin, 60), (timeHour, 3600), (timeDay, 86400)]

theorem apply_largerUnit {c : Converter} {size : ℕ} (known : (c, size) ∈ largerUnits) :
    0 < size ∧ ∀ now t, c.apply now t = inUnits size t := by
  simp only [largerUnits, List.mem_cons, Prod.mk.injEq, List.not_mem_nil, or_false] at known
  rcases known with ⟨rfl, rfl⟩ | ⟨rfl, rfl⟩ | ⟨rfl, rfl⟩
  · exact ⟨by decide, fun _ _ => rfl⟩
  · exact ⟨by decide, fun _ _ => rfl⟩
  · exact ⟨by decide, fun _ _ => rfl⟩

/-- **In a larger unit a duration comes to the nearest integer**, whatever its size: the only one
that is at most half a unit away, and even if it is half a unit away. It grows with the duration and
changes sign with it. It is written if it stays within the digit limit, and otherwise the converter
fails. -/
theorem largerUnits_nearest {c : Converter} {size : ℕ} (known : (c, size) ∈ largerUnits) :
    ∃ rounded : ℤ → ℤ,
      (∀ n q, rounded n = q ↔
        2 * |n - q * size| ≤ size ∧ (2 * |n - q * size| = size → Even q)) ∧
      Monotone rounded ∧ (∀ n, rounded (-n) = -rounded n) ∧
      ∀ now t n, Duration.read? t = some n →
        c.apply now t = if (naturalText (rounded n).natAbs).length ≤ digitLimit then
          .done (integerText (rounded n)) else .tooLong := by
  obtain ⟨positive, applied⟩ := apply_largerUnit known
  refine ⟨fun n => roundQuotient n size, fun n q => roundQuotient_eq_iff positive,
    roundQuotient_mono positive, fun n => roundQuotient_neg n positive, ?_⟩
  intro now t n read
  rw [applied, inUnits, read, Option.bind_some, integerText?]
  simp only [withinLimit_iff]
  split <;> rfl

/-- A minute and a half is rounded to two, and so it is before zero; of `10 ^ 30` minutes and a half
all digits are kept. -/
theorem largerUnits_nearest_half :
    timeMin.apply .epoch "1m30s".toList = .done ['2'] ∧
      timeMin.apply .epoch "-90".toList = .done "-2".toList ∧
      timeMin.apply .epoch "1000000000000000000000000000000m30s".toList =
        .done "1000000000000000000000000000000".toList := by
  obtain ⟨rounded, nearest, -, symmetric, written⟩ :=
    @largerUnits_nearest timeMin 60 (by decide)
  have two : rounded 90 = 2 := (nearest 90 2).mpr (by decide)
  have minus : rounded (-90) = -2 := by rw [symmetric, two]
  have long : rounded (60 * 10 ^ 30 + 30) = 10 ^ 30 := (nearest _ _).mpr (by decide)
  have first := written .epoch "1m30s".toList 90 (by decide)
  have second := written .epoch "-90".toList (-90) (by decide)
  have third := written .epoch "1000000000000000000000000000000m30s".toList (60 * 10 ^ 30 + 30)
    (by decide)
  rw [two] at first
  rw [minus] at second
  rw [long] at third
  exact ⟨first.trans (by decide), second.trans (by decide), third.trans (by decide)⟩

end Converter
end MacroShell
