import Mathlib.Data.Bool.AllAny
import MacroShell.Language.Literal
import MacroShell.Proofs.Calendar.Compact
import MacroShell.Proofs.Calendar.Groups
import MacroShell.Proofs.Number.Decimal

/-!
# The types of durations and numerals

Dates are looked for first. A duration is no date: it has none of the marks of a layout, and behind
the digits of a date its last unit would be left unread. A numeral that is no duration is a number,
unless the digits of a date stand at its front and a time of day behind the next character.
-/

namespace MacroShell

/-! ## The shape of durations -/

namespace Duration

def IsRow (t : Text) : Prop :=
  ∃ groups : List (Text × Char), groups ≠ [] ∧
    (∀ g ∈ groups, isDigits g.1 = true ∧ isUnit g.2 = true) ∧
    t = groups.flatMap fun g => g.1 ++ [g.2]

theorem isGroups_row {groups : List (Text × Char)}
    (good : ∀ g ∈ groups, isDigits g.1 = true ∧ isUnit g.2 = true) :
    isGroups false (groups.flatMap fun g => g.1 ++ [g.2]) = true := by
  induction groups with
  | nil => rfl
  | cons g groups ih =>
    obtain ⟨⟨digits, unit⟩, others⟩ := List.forall_mem_cons.mp good
    obtain ⟨nonempty, decimal⟩ := isDigits_iff.mp digits
    rw [List.flatMap_cons, List.append_assoc, List.singleton_append,
      isGroups_count nonempty decimal (isDecimal_of_isUnit unit) unit]
    exact ih others

/-- A text of groups is a row; behind a digit, the count of its first group may be empty. -/
theorem exists_row (t : Text) :
    (isGroups false t = true → ∃ groups : List (Text × Char),
      (∀ g ∈ groups, isDigits g.1 = true ∧ isUnit g.2 = true) ∧
      t = groups.flatMap fun g => g.1 ++ [g.2]) ∧
    (isGroups true t = true → ∃ count unit, ∃ groups : List (Text × Char),
      (∀ c ∈ count, isDecimal c = true) ∧ isUnit unit = true ∧
      (∀ g ∈ groups, isDigits g.1 = true ∧ isUnit g.2 = true) ∧
      t = count ++ unit :: groups.flatMap fun g => g.1 ++ [g.2]) := by
  induction t with
  | nil => exact ⟨fun _ => ⟨[], by simp, rfl⟩, fun h => by cases h⟩
  | cons c t ih =>
    obtain ⟨rows, opened⟩ := ih
    cases digit : isDecimal c with
    | true =>
      rw [isGroups, isGroups, if_pos digit, if_pos digit]
      constructor
      · intro h
        obtain ⟨count, unit, groups, decimal, known, good, rfl⟩ := opened h
        have digits : isDigits (c :: count) = true :=
          isDigits_iff.mpr ⟨List.cons_ne_nil _ _, List.forall_mem_cons.mpr ⟨digit, decimal⟩⟩
        exact ⟨(c :: count, unit) :: groups, List.forall_mem_cons.mpr ⟨⟨digits, known⟩, good⟩,
          by simp⟩
      · intro h
        obtain ⟨count, unit, groups, decimal, known, good, rfl⟩ := opened h
        exact ⟨c :: count, unit, groups, List.forall_mem_cons.mpr ⟨digit, decimal⟩, known, good, rfl⟩
    | false =>
      rw [isGroups, isGroups, if_neg (by simp [digit]), if_neg (by simp [digit])]
      constructor
      · intro h
        cases h
      · intro h
        rw [Bool.true_and, Bool.and_eq_true] at h
        obtain ⟨groups, good, rfl⟩ := rows h.2
        exact ⟨[], c, groups, by simp, h.1, good, rfl⟩

/-- **The texts that have the shape of a duration.** -/
theorem isUnsigned_iff {t : Text} : isUnsigned t = true ↔ IsRow t ∨ isDigits t = true := by
  rw [isUnsigned, Bool.or_eq_true]
  refine or_congr ?_ Iff.rfl
  rw [Bool.and_eq_true]
  constructor
  · rintro ⟨nonempty, row⟩
    obtain ⟨groups, good, rfl⟩ := (exists_row t).1 row
    refine ⟨groups, ?_, good, rfl⟩
    rintro rfl
    cases nonempty
  · rintro ⟨groups, nonempty, good, rfl⟩
    refine ⟨?_, isGroups_row good⟩
    obtain ⟨g, others, rfl⟩ := List.exists_cons_of_ne_nil nonempty
    simp

theorem isShape_trim (t : Text) : isShape t.trim = isUnsigned t.trim := by
  have solid : t.trim.getLast? ≠ some '\n' := by
    intro last
    have blank : isSpace '\n' = false := Text.isSpace_of_mem_getLast?_trim last
    exact absurd blank (by decide)
  rw [isShape, Text.dropLineFeed, if_neg solid]

theorem IsRow.mem_cases {t : Text} (h : IsRow t) {c : Char} (mem : c ∈ t) :
    isDecimal c = true ∨ isUnit c = true := by
  obtain ⟨groups, -, good, rfl⟩ := h
  obtain ⟨g, inside, mem⟩ := List.mem_flatMap.mp mem
  obtain ⟨digits, unit⟩ := good g inside
  rcases List.mem_append.mp mem with digit | last
  · exact Or.inl ((isDigits_iff.mp digits).2 c digit)
  · rw [List.mem_singleton.mp last]
    exact Or.inr unit

theorem IsRow.notMem {t : Text} (h : IsRow t) {a : Char} (noDigit : isDecimal a = false)
    (noUnit : isUnit a = false) : a ∉ t := by
  intro mem
  rcases h.mem_cases mem with digit | unit
  · rw [noDigit] at digit
    cases digit
  · rw [noUnit] at unit
    cases unit

theorem IsRow.exists_unit {t : Text} (h : IsRow t) :
    ∃ front unit, t = front ++ [unit] ∧ isUnit unit = true := by
  obtain ⟨groups, nonempty, good, rfl⟩ := h
  obtain ⟨front, g, rfl⟩ := (List.eq_nil_or_concat' groups).resolve_left nonempty
  refine ⟨(front.flatMap fun g => g.1 ++ [g.2]) ++ g.1, g.2, by simp, ?_⟩
  exact (good g (by simp)).2

end Duration

/-! ## Dates without slashes and colons -/

theorem isDigit_of_isDecimal {c : Char} (h : isDecimal c = true) : isDigit c = true := by
  rw [isDigit, h, Bool.true_or]

/-- All layouts ask for a slash or a colon. -/
theorem isSome_readMoment?_iff {t : Text} (noSlash : '/' ∉ t.trim) (noColon : ':' ∉ t.trim)
    (now : Moment) : (readMoment? now t).isSome = true ↔
      t.trim.all isDigit = false ∧ (Iso.read? t.trim).isSome = true := by
  have separated : ∀ layout ∈ Layout.dates ++ Layout.clocks,
      '/' ∈ layout.marks ∨ ':' ∈ layout.marks := by decide
  have none : ∀ layout ∈ Layout.dates ++ Layout.clocks, layout.read? t.trim = none := by
    intro layout mem
    apply Layout.read?_eq_none_of_marks (marks_known layout mem)
    intro same
    rcases separated layout mem with slash | colon
    · rw [← same] at slash
      exact noSlash (List.mem_of_mem_filter slash)
    · rw [← same] at colon
      exact noColon (List.mem_of_mem_filter colon)
  cases iso : Iso.read? t.trim with
  | none => simp [readMoment?_eq_none iso none now]
  | some stamp =>
    cases digits : t.trim.all isDigit with
    | true =>
      obtain ⟨dates, clocks⟩ := List.forall_mem_append.mp none
      simp [readMoment?, digits, List.findSome?_eq_none_iff.mpr dates,
        List.findSome?_eq_none_iff.mpr clocks]
    | false =>
      have filled : t.trim.isEmpty = false := by
        rw [List.isEmpty_eq_false_iff]
        intro nil
        rw [nil] at digits
        cases digits
      simp [readMoment?, digits, filled, iso]

/-! ## Durations -/

/-- A row of groups is no date: its last unit is a letter, which no time of day has. -/
theorem Duration.IsRow.iso_eq_none {t : Text} (h : IsRow t) : Iso.read? t = none := by
  have letters : ['s', 'm', 'h', 'd', 'S', 'M', 'H', 'D'].all
      (fun c => !Iso.isTimePart c && decide (c.toNat < 128)) = true := by decide
  have others : ∀ a ∈ "-W+Z\x00".toList, isDecimal a = false ∧ isUnit a = false :=
    List.all_iff_forall_prop.mp (by decide)
  obtain ⟨front, unit, rfl, known⟩ := h.exists_unit
  have letter := List.all_eq_true.mp letters unit (of_decide_eq_true known)
  rw [Bool.and_eq_true, Bool.not_eq_true', decide_eq_true_eq] at letter
  exact Iso.read?_eq_none_of_letter letter.1 letter.2 fun a mark =>
    h.notMem (others a mark).1 (others a mark).2

theorem Duration.notMem_trim {t : Text} (h : IsRow t.trim ∨ isDigits t.trim = true) {a : Char}
    (noDigit : isDecimal a = false) (noUnit : isUnit a = false) : a ∉ t.trim := by
  rcases h with row | digits
  · exact row.notMem noDigit noUnit
  · intro mem
    rw [(isDigits_iff.mp digits).2 a mem] at noDigit
    cases noDigit

/-- **No duration is a date.** -/
theorem readMoment?_duration {t : Text} (h : Duration.IsRow t.trim ∨ isDigits t.trim = true)
    (now : Moment) : readMoment? now t = none := by
  have noSlash := Duration.notMem_trim h (a := '/') (by decide) (by decide)
  have noColon := Duration.notMem_trim h (a := ':') (by decide) (by decide)
  rw [← Option.not_isSome_iff_eq_none, isSome_readMoment?_iff noSlash noColon]
  rintro ⟨notAll, read⟩
  rcases h with row | digits
  · rw [row.iso_eq_none] at read
    cases read
  · have all : t.trim.all isDigit = true := by
      rw [List.all_eq_true]
      exact fun c mem => isDigit_of_isDecimal ((isDigits_iff.mp digits).2 c mem)
    rw [all] at notAll
    cases notAll

/-! ## Numerals -/

theorem isSome_number?_iff {t : Text} : (Number.read? t).isSome = true ↔
    (readInteger? t).isSome = true ∨ (readDecimal? t).isSome = true := by
  simp [Number.read?]

/-- Every numeral is a decimal literal. -/
theorem isSome_decimal? {t : Text}
    (h : (readInteger? t).isSome = true ∨ (readDecimal? t).isSome = true) :
    (Decimal.read? t.trim).isSome = true := by
  rcases h with integer | decimal
  · obtain ⟨n, known⟩ := Option.isSome_iff_exists.mp integer
    rw [Decimal.read?_of_isIntegerLiteral (isIntegerLiteral_of_readInteger? known)]
    rfl
  · rwa [readDecimal?, Option.isSome_map] at decimal

/-- A numeral that is not all digits has another character in it. -/
theorem Decimal.all_isDigit {t : Text} (h : (read? t).isSome = true) (other : isDigits t = false) :
    t.all isDigit = false := by
  have nonempty : t ≠ [] := by
    rintro rfl
    exact absurd h (by decide)
  have marks : ∀ c ∈ "+-.eE".toList, isDigit c = false := List.all_iff_forall_prop.mp (by decide)
  rw [Bool.eq_false_iff]
  intro all
  have digits : ∀ c ∈ t, isDecimal c = true := by
    intro c mem
    refine (mem_cases h mem).resolve_right fun mark => ?_
    have digit := List.all_eq_true.mp all c mem
    rw [marks c mark] at digit
    cases digit
  rw [isDigits_iff.mpr ⟨nonempty, digits⟩] at other
  cases other

/-- No numeral has a dash behind four digits. -/
theorem Decimal.head?_ne_dash {year rest : Text} (h : (read? (year ++ rest)).isSome = true)
    (nonempty : year ≠ []) (digits : ∀ c ∈ year, c.isDigit = true) : rest.head? ≠ some '-' := by
  intro dash
  obtain ⟨rest, rfl⟩ := List.head?_eq_some_iff.mp dash
  have ends : ∀ c ∈ ('-' :: rest).head?, isDecimal c = false ∧ c ≠ '.' := by
    rintro - ⟨⟩
    decide
  rw [read?_whole (fun c mem => isDecimal_of_isDigit (digits c mem)) nonempty ends] at h
  simp [readExponent?] at h

/-- **Which numerals are dates**, durations apart: those that have the digits of a date at their
front and a time of day behind the next character. -/
theorem isSome_readMoment?_numeral_iff {t : Text} (numeral : (Decimal.read? t.trim).isSome = true)
    (other : isDigits t.trim = false) (now : Moment) :
    (readMoment? now t).isSome = true ↔ Iso.IsDateTime t.trim := by
  have noSlash := Decimal.notMem numeral (a := '/') (by decide) (by decide)
  have noColon := Decimal.notMem numeral (a := ':') (by decide) (by decide)
  have noWeek := Decimal.notMem numeral (a := 'W') (by decide) (by decide)
  have notAll := Decimal.all_isDigit numeral other
  have unmarked : ∀ year rest, t.trim = year ++ rest → year.length = 4 →
      (∀ c ∈ year, c.isDigit = true) → rest.head? ≠ some '-' ∧ rest.head? ≠ some 'W' := by
    intro year rest whole four digits
    rw [whole] at numeral noWeek
    have nonempty : year ≠ [] := by
      rintro rfl
      cases four
    exact ⟨Decimal.head?_ne_dash numeral nonempty digits, fun week =>
      noWeek (List.mem_append_right year (List.mem_of_mem_head? week))⟩
  rw [isSome_readMoment?_iff noSlash noColon, Iso.isSome_read?_iff unmarked]
  constructor
  · rintro ⟨-, date | timed⟩
    · obtain ⟨-, -, -, -, -, -, -, digits, -⟩ := date
      have all : t.trim.all isDigit = true := by
        rw [List.all_eq_true]
        exact fun c mem => isDigit_of_isDecimal (isDecimal_of_isDigit (digits c mem))
      rw [notAll] at all
      cases all
    · exact timed
  · intro timed
    exact ⟨notAll, Or.inr timed⟩

theorem readMoment?_trim (now : Moment) (t : Text) : readMoment? now t.trim = readMoment? now t := by
  simp only [readMoment?, Text.trim_trim]

/-- **The types of durations and numerals.** A text of the shape of a duration is a time. Any other
numeral is a number, unless it has the digits of a date at its front and a time of day behind the
next character: then it is a date. -/
theorem detectKind_literal (now : Moment) (t : Text) :
    (Duration.IsRow t.trim ∨ isDigits t.trim = true → detectKind now t = .time) ∧
    (¬ (Duration.IsRow t.trim ∨ isDigits t.trim = true) →
      (readInteger? t).isSome = true ∨ (readDecimal? t).isSome = true →
      (Iso.IsDateTime t.trim → detectKind now t = .date) ∧
      (¬ Iso.IsDateTime t.trim → detectKind now t = .number)) := by
  constructor
  · intro duration
    have undated := readMoment?_duration duration now
    have shape := Duration.isUnsigned_iff.mpr duration
    simp [detectKind, readMoment?_trim, undated, Duration.isShape_trim, shape]
  · intro other numeral
    obtain ⟨noRow, noDigits⟩ := not_or.mp other
    have dated := isSome_readMoment?_numeral_iff (isSome_decimal? numeral)
      (Bool.eq_false_iff.mpr noDigits) now
    have noShape : Duration.isUnsigned t.trim = false := by
      rw [Bool.eq_false_iff]
      exact fun shape => other (Duration.isUnsigned_iff.mp shape)
    have number : (Number.read? t.trim).isSome = true := by
      have same : Number.read? t.trim = Number.read? t := by
        simp only [Number.read?, readInteger?, readDecimal?, Text.trim_trim]
      rw [same]
      exact isSome_number?_iff.mpr numeral
    constructor
    · intro timed
      simp [detectKind, readMoment?_trim, dated.mpr timed]
    · intro untimed
      have undated : (readMoment? now t).isSome = false := by
        rw [Bool.eq_false_iff]
        exact fun read => untimed (dated.mp read)
      simp [detectKind, readMoment?_trim, undated, Duration.isShape_trim, noShape, number]

/-- Groups in a row, a signed integer, and a number with a day and an hour in it. -/
theorem detectKind_literal_mixed :
    detectKind .epoch " 1d2H٣m ".toList = .time ∧ detectKind .epoch "-20240101".toList = .number ∧
      detectKind .epoch "20240101.12".toList = .date := by
  have row : Duration.IsRow (Text.trim " 1d2H٣m ".toList) :=
    ⟨[(['1'], 'd'), (['2'], 'H'), (['٣'], 'm')], by decide, by decide, by decide⟩
  have negative : ¬ (Duration.IsRow (Text.trim "-20240101".toList) ∨
      isDigits (Text.trim "-20240101".toList) = true) := by
    rw [← Duration.isUnsigned_iff]
    decide
  have undated : ¬ Iso.IsDateTime (Text.trim "-20240101".toList) := by
    rintro ⟨date, mark, time, whole, ⟨year, rest, day, rfl, four, -, -, digits, -⟩, -⟩
    cases year with
    | nil => cases four
    | cons c others =>
      have first : '-' = c := (List.cons.inj whole).1
      subst first
      exact absurd (digits '-' (by simp)) (by decide)
  have pointed : ¬ (Duration.IsRow (Text.trim "20240101.12".toList) ∨
      isDigits (Text.trim "20240101.12".toList) = true) := by
    rw [← Duration.isUnsigned_iff]
    decide
  have dated : Iso.IsDateTime (Text.trim "20240101.12".toList) :=
    ⟨"20240101".toList, '.', "12".toList, by decide,
      ⟨"2024".toList, "01".toList, "01".toList, by decide, rfl, rfl, rfl,
        List.all_iff_forall_prop.mp (by decide), by decide⟩,
      by decide⟩
  exact ⟨(detectKind_literal .epoch " 1d2H٣m ".toList).1 (Or.inl row),
    ((detectKind_literal .epoch "-20240101".toList).2 negative (Or.inl (by decide))).2 undated,
    ((detectKind_literal .epoch "20240101.12".toList).2 pointed (Or.inr (by
      rw [readDecimal?, Option.isSome_map]
      decide))).1 dated⟩

/-- The number 20240101.12 is taken for noon of a day. -/
theorem detectKind_pointed : ¬ ∀ now t,
    (Duration.IsRow t.trim ∨ isDigits t.trim = true → detectKind now t = .time) ∧
    (¬ (Duration.IsRow t.trim ∨ isDigits t.trim = true) →
      (readInteger? t).isSome = true ∨ (readDecimal? t).isSome = true →
      detectKind now t = .number) := by
  intro all
  have other : ¬ (Duration.IsRow (Text.trim "20240101.12".toList) ∨
      isDigits (Text.trim "20240101.12".toList) = true) := by
    rw [← Duration.isUnsigned_iff]
    decide
  have numeral : (readDecimal? "20240101.12".toList).isSome = true := by
    rw [readDecimal?, Option.isSome_map]
    decide
  have number := (all .epoch "20240101.12".toList).2 other (Or.inr numeral)
  have date : detectKind .epoch "20240101.12".toList = .date := by decide +kernel
  rw [date] at number
  cases number

end MacroShell
