import MacroShell.Calendar.Literal
import MacroShell.Proofs.Calendar.Layout
import MacroShell.Proofs.Text.Case
import MacroShell.Proofs.Text.Space

/-!
# Reading what is written

A moment is written with the year first. Such a text is no ISO 8601, for want of a dash, and of the
layouts only one has its marks in its order. Years before 1000 are written in fewer digits than any
layout asks for, and such a text is no date at all.
-/

namespace MacroShell

/-! ## Texts that are not ISO 8601 -/

namespace Iso

theorem octets_cons {c : Char} (h : c.toNat < 128) (t : Text) : octets (c :: t) = c :: octets t := by
  have single : octets [c] = [c] :=
    common_cases (p := fun c => octets [c] = [c]) (by decide) h
  have split : octets (c :: t) = octets [c] ++ octets t := by
    simp [octets, Utf8.encode]
  rw [split, single, List.singleton_append]

theorem octets_digits_append {digits : Text} (h : ∀ c ∈ digits, c.isDigit = true) (t : Text) :
    octets (digits ++ t) = digits ++ octets t := by
  induction digits with
  | nil => rfl
  | cons c digits ih =>
    obtain ⟨digit, others⟩ := List.forall_mem_cons.mp h
    have low : c.toNat < 128 := Nat.lt_of_le_of_lt (toNat_of_isDigit digit).2 (by decide)
    rw [List.cons_append, octets_cons low, ih others, List.cons_append]

theorem takeDigits?_eq_none {count : Nat} {front rest : Text} {c : Char} (other : c.isDigit = false)
    (early : front.length < count) : takeDigits? count (front ++ c :: rest) = none := by
  obtain ⟨more, rfl⟩ := Nat.exists_eq_add_of_lt early
  have reached : c ∈ (front ++ c :: rest).take (front.length + more + 1) := by
    rw [Nat.add_assoc, List.take_length_add_append]
    exact List.mem_append_right front List.mem_cons_self
  have none : ((front ++ c :: rest).take (front.length + more + 1)).all Char.isDigit = false := by
    rw [List.all_eq_false]
    exact ⟨c, reached, by simp [other]⟩
  rw [takeDigits?, none, Bool.and_false]
  rfl

/-- At most four digits and then neither a digit, a dash nor a week mark. -/
theorem readDate?_eq_none {front rest : Text} {c : Char} (short : front.length ≤ 4)
    (other : c.isDigit = false) (mark : c ≠ '-' ∧ c ≠ 'W') (length : Nat) :
    readDate? length (front ++ c :: rest) = none := by
  rcases Nat.lt_or_eq_of_le short with fewer | four
  · rw [readDate?, takeDigits?_eq_none other fewer]
    rfl
  · have noMonth : takeDigits? 2 (c :: rest) = none :=
      @takeDigits?_eq_none 2 [] rest c other (by decide)
    rw [readDate?, takeDigits?, List.take_left' four, List.drop_left' four]
    split
    · simp [mark.1, mark.2, noMonth]
    · rfl

theorem read?_eq_none {front rest : Text} {c : Char} (digits : ∀ d ∈ front, d.isDigit = true)
    (short : front.length ≤ 4) (low : c.toNat < 128) (other : c.isDigit = false)
    (mark : c ≠ '-' ∧ c ≠ 'W') : read? (front ++ c :: rest) = none := by
  rw [read?, octets_digits_append digits, octets_cons low, readDate?_eq_none short other mark]
  rfl

end Iso

/-! ## Spelled moments -/

/-- A second has microseconds. -/
theorem Clock.zero_lt_second : 0 < 1000000 := by decide

namespace Moment

def wholeSecond (m : Moment) : Moment :=
  let c := m.clock
  ⟨m.date, c.hour, c.minute, c.second, 0, c.hour_lt, c.minute_lt, c.second_lt, Clock.zero_lt_second⟩

theorem wholeSecond_eq_self_iff {m : Moment} : m.wholeSecond = m ↔ m.clock.microsecond = 0 := by
  obtain ⟨date, clock⟩ := m
  simp [wholeSecond, Clock.ext_iff_fields, eq_comm]

/-- The texts that write a moment out, year first and every other field in one digit or in two. -/
def IsSpelling (m : Moment) (t : Text) : Prop :=
  ∃ month ∈ spellings m.date.month, ∃ day ∈ spellings m.date.day,
    ∃ hour ∈ spellings m.clock.hour, ∃ minute ∈ spellings m.clock.minute,
      ∃ second ∈ spellings m.clock.second,
        t = naturalText m.date.year ++ '/' :: month ++ '/' :: day ++ ' ' :: hour ++
          ':' :: minute ++ ':' :: second

theorem isSpelling_text (m : Moment) : m.IsSpelling m.text :=
  ⟨_, twoDigits_mem_spellings _, _, twoDigits_mem_spellings _, _, twoDigits_mem_spellings _,
    _, twoDigits_mem_spellings _, _, twoDigits_mem_spellings _, rfl⟩

theorem mem_values (m : Moment) :
    m.date.month ∈ LayoutPart.month.values ∧ m.date.day ∈ LayoutPart.day.values ∧
      m.clock.hour ∈ LayoutPart.hour.values ∧ m.clock.minute ∈ LayoutPart.minute.values ∧
        m.clock.second ∈ LayoutPart.second.values := by
  have month := m.date.month_range
  have day := m.date.day_range
  have longest := Date.daysInMonth_le m.date.year m.date.month
  simp only [LayoutPart.values, List.mem_range'_1, List.mem_range]
  exact ⟨by omega, by omega, m.clock.hour_lt, m.clock.minute_lt, m.clock.second_lt⟩

namespace IsSpelling

open Layout LayoutPart

variable {m : Moment} {t : Text}

theorem trim_eq_self (h : m.IsSpelling t) : t.trim = t := by
  obtain ⟨month, -, day, -, hour, -, minute, -, second, last, rfl⟩ := h
  have front : Text.trim (naturalText m.date.year) = naturalText m.date.year :=
    Text.trim_eq_self fun c mem => isSpace_of_isDigit (isDigit_of_mem_naturalText mem)
  have back : Text.trim second = second :=
    Text.trim_eq_self fun c mem => isSpace_of_isDigit (isDigit_of_mem_spelling last mem)
  have whole := Text.trim_enclosed front back (naturalText_ne_nil _) (spelling_ne_nil last)
    ('/' :: month ++ '/' :: day ++ ' ' :: hour ++ ':' :: minute ++ [':'])
  simpa using whole

theorem isEmpty_eq_false (h : m.IsSpelling t) : t.isEmpty = false := by
  obtain ⟨month, -, day, -, hour, -, minute, -, second, -, rfl⟩ := h
  simp

theorem filter_isMark (h : m.IsSpelling t) : t.filter isMark = "//::".toList := by
  obtain ⟨month, inMonth, day, inDay, hour, inHour, minute, inMinute, second, inSecond, rfl⟩ := h
  have plain {n : Nat} {digits : Text} (spelled : digits ∈ spellings n) :
      digits.filter isMark = [] :=
    filter_isMark_digits fun c => isDigit_of_mem_spelling spelled
  have year : (naturalText m.date.year).filter isMark = [] :=
    filter_isMark_digits fun c => isDigit_of_mem_naturalText
  have marks : isMark '/' = true ∧ isMark ':' = true ∧ isMark ' ' = false := by decide
  simp [marks, year, plain inMonth, plain inDay, plain inHour, plain inMinute, plain inSecond]

theorem iso_eq_none (h : m.IsSpelling t) : Iso.read? t = none := by
  obtain ⟨month, -, day, -, hour, -, minute, -, second, -, rfl⟩ := h
  have short : (naturalText m.date.year).length ≤ 4 := by
    rw [length_naturalText_le_iff (by decide)]
    exact Nat.lt_of_le_of_lt m.date.year_range.2 (by decide)
  have none := @Iso.read?_eq_none (naturalText m.date.year)
    (month ++ '/' :: day ++ ' ' :: hour ++ ':' :: minute ++ ':' :: second) '/'
    (fun c => isDigit_of_mem_naturalText) short (by decide) (by decide) (by decide)
  simpa using none

theorem hasRunsUpTo (h : m.IsSpelling t) (early : m.date.year < 1000) : HasRunsUpTo 3 t := by
  obtain ⟨month, inMonth, day, inDay, hour, inHour, minute, inMinute, second, inSecond, rfl⟩ := h
  obtain ⟨months, days, hours, minutes, seconds⟩ := m.mem_values
  have brief {part : LayoutPart} {n : Nat} (known : n ∈ part.values) {digits : Text}
      (spelled : digits ∈ spellings n) : HasRunsUpTo 3 digits := by
    apply hasRunsUpTo_of_length
    exact Nat.le_succ_of_le (length_spelling_le (lt_of_mem_values known) spelled)
  have year : HasRunsUpTo 3 (naturalText m.date.year) := by
    apply hasRunsUpTo_of_length
    exact (length_naturalText_le_iff (by decide)).mpr early
  have others : isDecimal '/' = false ∧ isDecimal ' ' = false ∧ isDecimal ':' = false := by decide
  obtain ⟨slash, blank, colon⟩ := others
  exact ((((year.append_cons slash (brief months inMonth)).append_cons slash
    (brief days inDay)).append_cons blank (brief hours inHour)).append_cons colon
    (brief minutes inMinute)).append_cons colon (brief seconds inSecond)

theorem fields? (h : m.IsSpelling t) (late : 1000 ≤ m.date.year) :
    (yearFirst '/' ++ space :: toSecond).fields? .start t =
      some ⟨m.date.year, m.date.month, m.date.day, m.clock.hour, m.clock.minute, m.clock.second⟩ := by
  obtain ⟨month, inMonth, day, inDay, hour, inHour, minute, inMinute, second, inSecond, rfl⟩ := h
  obtain ⟨months, days, hours, minutes, seconds⟩ := m.mem_values
  simp only [yearFirst, toSecond, List.append_assoc, List.cons_append, List.nil_append]
  rw [fields?_year late m.date.year_range.2, fields?_mark,
    fields?_number months inMonth (by simp), fields?_mark, fields?_number days inDay (by simp),
    fields?_space inHour, fields?_number hours inHour (by simp), fields?_mark,
    fields?_number minutes inMinute (by simp), fields?_mark, fields?_last seconds inSecond]
  rfl

theorem read? (h : m.IsSpelling t) (late : 1000 ≤ m.date.year) :
    (yearFirst '/' ++ space :: toSecond).read? t = some m.wholeSecond := by
  have date : Date.of? m.date.year m.date.month m.date.day = some m.date :=
    Date.of?_eq_some_iff.mpr ⟨rfl, rfl, rfl⟩
  have clock : Clock.of? m.clock.hour m.clock.minute m.clock.second 0 =
      some m.wholeSecond.clock :=
    dif_pos ⟨m.clock.hour_lt, m.clock.minute_lt, m.clock.second_lt, Clock.zero_lt_second⟩
  rw [Layout.read?, h.fields? late, Option.bind_some, LayoutFields.moment?, date, clock]
  rfl

end IsSpelling
end Moment

/-! ## Reading -/

/-- A text is no date if neither ISO 8601 nor any layout accounts for it. -/
theorem readMoment?_eq_none {t : Text} (iso : Iso.read? t.trim = none)
    (layouts : ∀ layout ∈ Layout.dates ++ Layout.clocks, layout.read? t.trim = none)
    (now : Moment) : readMoment? now t = none := by
  obtain ⟨dates, clocks⟩ := List.forall_mem_append.mp layouts
  have dated : Layout.dates.findSome? (·.read? t.trim) = none := List.findSome?_eq_none_iff.mpr dates
  have timed : Layout.clocks.findSome? (·.read? t.trim) = none :=
    List.findSome?_eq_none_iff.mpr clocks
  simp only [readMoment?, iso, dated, timed, ite_self]
  exact ite_self none

theorem marks_known : ∀ layout ∈ Layout.dates ++ Layout.clocks, layout.marks.all isMark = true := by
  decide

/-- **A spelled moment is read back**, up to the part of a second that is not written, from year
1000 on; before that it is no date at all. -/
theorem readMoment?_of_isSpelling {m : Moment} {t : Text} (h : m.IsSpelling t) (now : Moment) :
    readMoment? now t = if 1000 ≤ m.date.year then some ⟨m.wholeSecond, none⟩ else none := by
  by_cases late : 1000 ≤ m.date.year
  · have dated : Layout.dates.findSome? (·.read? t) = some m.wholeSecond := by
      simp only [Layout.dates, List.findSome?_cons, h.read? late]
    simp only [readMoment?, h.trim_eq_self, h.isEmpty_eq_false, h.iso_eq_none, ite_self, dated,
      if_pos late]
    rfl
  · rw [if_neg late]
    apply readMoment?_eq_none
    · rw [h.trim_eq_self, h.iso_eq_none]
    · -- Dates ask for four digits in a row, and times of day have no slashes.
      have dated : ∀ layout ∈ Layout.dates, LayoutPart.year ∈ layout := by decide
      have timed : ∀ layout ∈ Layout.clocks, "//::".toList ≠ layout.marks := by decide
      intro layout mem
      rw [h.trim_eq_self]
      rcases List.mem_append.mp mem with date | clock
      · have short := h.hasRunsUpTo (Nat.lt_of_not_le late)
        exact Layout.read?_eq_none_of_runs (dated layout date) short
      · apply Layout.read?_eq_none_of_marks (marks_known layout mem)
        rw [h.filter_isMark]
        exact timed layout clock

/-- **The canonical text of a moment is read back** as the moment, up to its part of a second, in
every year of at least four digits. Earlier years are written in too few digits for any date. -/
theorem readMoment?_text (now m : Moment) :
    (readMoment? now m.text = if 1000 ≤ m.date.year then some ⟨m.wholeSecond, none⟩ else none) ∧
      (m.wholeSecond = m ↔ m.clock.microsecond = 0) :=
  ⟨readMoment?_of_isSpelling m.isSpelling_text now, Moment.wholeSecond_eq_self_iff⟩

/-- A morning in the year 999 is written without its leading zero and not read back. -/
theorem readMoment?_text_early :
    let morning : Moment := ⟨⟨999, 5, 6, by decide, by decide, by decide⟩,
      7, 8, 9, 0, by decide, by decide, by decide, by decide⟩
    morning.text = "999/05/06 07:08:09".toList ∧
      readMoment? .epoch morning.text ≠ some ⟨morning, none⟩ := by
  decide +kernel

end MacroShell
