import Mathlib.Order.Monotone.Basic
import MacroShell.Calendar.Moment

/-!
# Moments and their numbers

Days are numbered without a gap from the first to the last of the calendar, and so are seconds. From
a number back to its day, years and months are passed one after another as long as the days left
fill them.
-/

namespace MacroShell

/-! ## Passing slots -/

/-- Passes slots, from the given one on and at most `fuel` of them, while what is left fills them. -/
def locate (size : Nat → Nat) : Nat → Nat → Nat → Nat × Nat
  | 0, slot, left => (slot, left)
  | fuel + 1, slot, left =>
    if left < size slot then (slot, left) else locate size fuel (slot + 1) (left - size slot)

section
variable {offset size : Nat → Nat} {first slot left fuel : Nat}

/-- The passing ends in the slot that what was given falls into. -/
theorem locate_spec (step : ∀ i, first ≤ i → offset (i + 1) = offset i + size i)
    (start : first ≤ slot) (within : offset slot + left < offset (slot + fuel)) :
    let found := locate size fuel slot left
    slot ≤ found.1 ∧ found.1 < slot + fuel ∧ found.2 < size found.1 ∧
      offset found.1 + found.2 = offset slot + left := by
  induction fuel generalizing slot left with
  | zero =>
    rw [Nat.add_zero] at within
    omega
  | succ fuel ih =>
    have next := step slot start
    rw [locate]
    split
    · exact ⟨Nat.le_refl _, by omega, ‹_›, rfl⟩
    · have moved : slot + 1 + fuel = slot + (fuel + 1) := by omega
      have further := @ih (slot + 1) (left - size slot) (by omega) (by rw [moved]; omega)
      obtain ⟨later, before, fits, same⟩ := further
      exact ⟨by omega, by omega, fits, by omega⟩

/-- A number falls into one slot only. -/
theorem slot_unique (mono : Monotone offset) {i j n : Nat} (hi : offset i ≤ n)
    (hi' : n < offset (i + 1)) (hj : offset j ≤ n) (hj' : n < offset (j + 1)) : i = j := by
  by_contra other
  rcases Nat.lt_or_gt_of_ne other with less | more
  · have above := mono (Nat.succ_le_of_lt less)
    rw [Nat.succ_eq_add_one] at above
    omega
  · have above := mono (Nat.succ_le_of_lt more)
    rw [Nat.succ_eq_add_one] at above
    omega

end

namespace Date

theorem findYear_eq_locate (fuel year left : Nat) :
    findYear fuel year left = locate daysInYear fuel year left := by
  induction fuel generalizing year left with
  | zero => rfl
  | succ fuel ih => rw [findYear, locate, ih]

theorem findMonth_eq_locate (year fuel month left : Nat) :
    findMonth year fuel month left = locate (daysInMonth year) fuel month left := by
  induction fuel generalizing month left with
  | zero => rfl
  | succ fuel ih => rw [findMonth, locate, ih]

/-! ## Years and months -/

theorem isLeapYear_iff {year : Nat} :
    isLeapYear year = true ↔ year % 4 = 0 ∧ (year % 100 ≠ 0 ∨ year % 400 = 0) := by
  simp [isLeapYear]

theorem succ_div (n d : Nat) : (n + 1) / d = n / d + if (n + 1) % d = 0 then 1 else 0 := by
  rw [Nat.succ_div]
  simp only [Nat.dvd_iff_mod_eq_zero]

theorem daysBeforeYear_succ {year : Nat} (h : 1 ≤ year) :
    daysBeforeYear (year + 1) = daysBeforeYear year + daysInYear year := by
  obtain ⟨past, rfl⟩ := Nat.exists_eq_add_of_le' h
  have fewer : past / 100 ≤ past / 4 := Nat.div_le_div_left (by decide) (by decide)
  simp only [daysBeforeYear, daysInYear, isLeapYear_iff, Nat.add_sub_cancel, succ_div]
  by_cases fourth : (past + 1) % 4 = 0
  · by_cases century : (past + 1) % 100 = 0
    · by_cases cycle : (past + 1) % 400 = 0
      · simp only [fourth, century, cycle, ne_eq, not_true, or_true, and_true, if_true]
        omega
      · simp only [fourth, century, cycle, ne_eq, not_true, or_false, and_false, if_true, if_false]
        omega
    · have cycle : (past + 1) % 400 ≠ 0 := by omega
      simp only [fourth, century, cycle, ne_eq, not_false_eq_true, or_false, and_true, if_true, if_false]
      omega
  · have century : (past + 1) % 100 ≠ 0 := by omega
    have cycle : (past + 1) % 400 ≠ 0 := by omega
    simp only [fourth, century, cycle, false_and, if_false]
    omega

theorem daysBeforeYear_cycle (cycles : Nat) :
    daysBeforeYear (400 * cycles + 1) = daysPerCycle * cycles := by
  simp only [daysBeforeYear, daysPerCycle, Nat.add_sub_cancel]
  omega

theorem monotone_daysBeforeYear : Monotone daysBeforeYear := by
  apply monotone_nat_of_le_succ
  intro year
  by_cases start : 1 ≤ year
  · rw [daysBeforeYear_succ start]
    omega
  · rw [Nat.lt_one_iff.mp (Nat.lt_of_not_le start)]
    decide

theorem daysBeforeMonth_succ (year : Nat) {month : Nat} (h : 1 ≤ month) :
    daysBeforeMonth year (month + 1) = daysBeforeMonth year month + daysInMonth year month := by
  obtain ⟨past, rfl⟩ := Nat.exists_eq_add_of_le' h
  rfl

theorem monotone_daysBeforeMonth (year : Nat) : Monotone (daysBeforeMonth year) := by
  apply monotone_nat_of_le_succ
  intro month
  by_cases start : 1 ≤ month
  · rw [daysBeforeMonth_succ year start]
    omega
  · rw [Nat.lt_one_iff.mp (Nat.lt_of_not_le start)]
    exact Nat.le_refl 0

theorem daysInMonth_le (year month : Nat) : daysInMonth year month ≤ 31 := by
  unfold daysInMonth
  split
  · split <;> omega
  · split <;> omega

theorem daysBeforeMonth_last (year : Nat) : daysBeforeMonth year 13 = daysInYear year := by
  simp only [daysBeforeMonth, daysInMonth, daysInYear]
  cases isLeapYear year <;> rfl

/-! ## Numbered days -/

/-- Whether a number of days past the first of all ends in a month of a year, so many days after the
first of that month. -/
structure FallsOn (past year month left : Nat) : Prop where
  year_pos : 1 ≤ year
  month_range : 1 ≤ month ∧ month ≤ 12
  fits : left < daysInMonth year month
  total : daysBeforeYear year + daysBeforeMonth year month + left = past

theorem FallsOn.left_lt {past year month left : Nat} (h : FallsOn past year month left) :
    daysBeforeMonth year month + left < daysInYear year := by
  have next := daysBeforeMonth_succ year h.month_range.1
  have last := monotone_daysBeforeMonth year (Nat.succ_le_succ h.month_range.2)
  rw [daysBeforeMonth_last] at last
  have fits := h.fits
  rw [Nat.succ_eq_add_one] at last
  omega

theorem FallsOn.unique {past year month left year' month' left' : Nat}
    (h : FallsOn past year month left) (h' : FallsOn past year' month' left') :
    year = year' ∧ month = month' ∧ left = left' := by
  have total := h.total
  have total' := h'.total
  have same : year = year' := by
    have inYear := h.left_lt
    have inYear' := h'.left_lt
    have next := daysBeforeYear_succ h.year_pos
    have next' := daysBeforeYear_succ h'.year_pos
    apply slot_unique monotone_daysBeforeYear (n := past) <;> omega
  subst same
  have fits := h.fits
  have fits' := h'.fits
  have next := daysBeforeMonth_succ year h.month_range.1
  have next' := daysBeforeMonth_succ year h'.month_range.1
  have month_eq : month = month' := by
    apply slot_unique (monotone_daysBeforeMonth year) (n := past - daysBeforeYear year) <;> omega
  subst month_eq
  exact ⟨rfl, rfl, by omega⟩

theorem exists_fallsOn (past : Nat) :
    ∃ year month left, FallsOn past year month left ∧
      ofOrdinal? (past + 1) = of? year month (left + 1) := by
  generalize start_eq : 400 * (past / daysPerCycle) + 1 = start
  have cycle : daysBeforeYear start = daysPerCycle * (past / daysPerCycle) := by
    rw [← start_eq, daysBeforeYear_cycle]
  have next : daysBeforeYear (start + 400) = daysPerCycle * (past / daysPerCycle + 1) := by
    rw [← daysBeforeYear_cycle, ← start_eq]
    congr 1
  -- The days left over from whole cycles end before the next cycle, and so within 400 years.
  have reached : daysBeforeYear start + past % daysPerCycle < daysBeforeYear (start + 400) := by
    rw [cycle, next, Nat.div_add_mod]
    exact Nat.lt_mul_div_succ past (by decide)
  have years := locate_spec (fun _ => daysBeforeYear_succ) (by omega) reached
  rw [cycle, Nat.div_add_mod, ← findYear_eq_locate] at years
  simp only [ofOrdinal?, start_eq]
  cases byYears : findYear 400 start (past % daysPerCycle) with
  | mk year left =>
    rw [byYears] at years
    obtain ⟨later, -, inYear, byYear⟩ : start ≤ year ∧ year < start + 400 ∧
      left < daysInYear year ∧ daysBeforeYear year + left = past := years
    have ended : daysBeforeMonth year 1 + left < daysBeforeMonth year (1 + 12) := by
      rw [daysBeforeMonth_last]
      exact (Nat.zero_add left).symm ▸ inYear
    have months := locate_spec (fun _ => daysBeforeMonth_succ year) (Nat.le_refl 1) ended
    rw [← findMonth_eq_locate] at months
    cases byMonths : findMonth year 12 1 left with
    | mk month rest =>
      rw [byMonths] at months
      obtain ⟨first, last, fits, byMonth⟩ : 1 ≤ month ∧ month < 1 + 12 ∧
        rest < daysInMonth year month ∧
        daysBeforeMonth year month + rest = daysBeforeMonth year 1 + left := months
      have none : daysBeforeMonth year 1 = 0 := rfl
      exact ⟨year, month, rest, ⟨by omega, ⟨first, by omega⟩, fits, by omega⟩, rfl⟩

/-! ## Dates -/

theorem of?_eq_some_iff {year month day : Nat} {d : Date} :
    of? year month day = some d ↔ d.year = year ∧ d.month = month ∧ d.day = day := by
  constructor
  · intro made
    unfold of? at made
    split at made
    · split at made
      · split at made
        · obtain rfl := Option.some.inj made
          exact ⟨rfl, rfl, rfl⟩
        · cases made
      · cases made
    · cases made
  · rintro ⟨rfl, rfl, rfl⟩
    rw [of?, dif_pos d.year_range, dif_pos d.month_range, dif_pos d.day_range]

theorem isSome_of?_iff {year month day : Nat} :
    (of? year month day).isSome = true ↔
      (1 ≤ year ∧ year ≤ lastYear) ∧ (1 ≤ month ∧ month ≤ 12) ∧
        1 ≤ day ∧ day ≤ daysInMonth year month := by
  unfold of?
  split
  · split
    · split <;> simp [*]
    · simp [*]
  · simp [*]

theorem fallsOn_ordinal (d : Date) : ∃ past, d.ordinal = past + 1 ∧
    FallsOn past d.year d.month (d.day - 1) := by
  obtain ⟨first, last⟩ := d.day_range
  refine ⟨d.ordinal - 1, ?_, d.year_range.1, d.month_range, by omega, ?_⟩
  · rw [ordinal]
    omega
  · rw [ordinal]
    omega

theorem one_le_ordinal (d : Date) : 1 ≤ d.ordinal := by
  obtain ⟨past, number, -⟩ := d.fallsOn_ordinal
  omega

theorem ordinal_le_daysBeforeYear {d : Date} {year : Nat} (h : d.year < year) :
    d.ordinal ≤ daysBeforeYear year := by
  obtain ⟨past, number, place⟩ := d.fallsOn_ordinal
  have total := place.total
  have inYear := place.left_lt
  have next := daysBeforeYear_succ place.year_pos
  have above := monotone_daysBeforeYear (Nat.succ_le_of_lt h)
  rw [Nat.succ_eq_add_one] at above
  omega

/-- **Dates and their numbers correspond.** -/
theorem ofOrdinal?_eq_some_iff {n : Nat} {d : Date} : ofOrdinal? n = some d ↔ d.ordinal = n := by
  obtain ⟨own, number, place⟩ := d.fallsOn_ordinal
  have first := d.day_range.1
  cases n with
  | zero =>
    rw [number]
    simp [ofOrdinal?]
  | succ past =>
    obtain ⟨year, month, left, falls, found⟩ := exists_fallsOn past
    rw [found, of?_eq_some_iff, number]
    constructor
    · rintro ⟨rfl, rfl, day⟩
      have same : d.day - 1 = left := by omega
      rw [← place.total, ← falls.total, same]
    · intro same
      obtain rfl := Nat.succ.inj same
      obtain ⟨rfl, rfl, day⟩ := place.unique falls
      exact ⟨rfl, rfl, by omega⟩

def lastOrdinal : Nat := 3652059

theorem isSome_ofOrdinal?_iff {n : Nat} :
    (ofOrdinal? n).isSome = true ↔ 1 ≤ n ∧ n ≤ lastOrdinal := by
  cases n with
  | zero => simp [ofOrdinal?]
  | succ past =>
    obtain ⟨year, month, left, falls, found⟩ := exists_fallsOn past
    have known : left + 1 ≤ daysInMonth year month := falls.fits
    have start : 1 ≤ year := falls.year_pos
    have ended : daysBeforeYear (lastYear + 1) = lastOrdinal := by decide
    have inYear := falls.left_lt
    have next := daysBeforeYear_succ start
    have total := falls.total
    rw [found, isSome_of?_iff]
    constructor
    · rintro ⟨⟨-, inside⟩, -⟩
      have above := monotone_daysBeforeYear (Nat.succ_le_succ inside)
      simp only [Nat.succ_eq_add_one] at above
      omega
    · rintro ⟨-, inside⟩
      refine ⟨⟨start, ?_⟩, falls.month_range, by omega, known⟩
      by_contra past
      have above := monotone_daysBeforeYear (Nat.succ_le_of_lt (Nat.lt_of_not_le past))
      simp only [Nat.succ_eq_add_one] at above
      omega

end Date

/-! ## Moments -/

theorem Clock.ext_iff_fields {c c' : Clock} :
    c = c' ↔ c.hour = c'.hour ∧ c.minute = c'.minute ∧ c.second = c'.second ∧
      c.microsecond = c'.microsecond := by
  obtain ⟨h, m, s, u⟩ := c
  obtain ⟨h', m', s', u'⟩ := c'
  simp

theorem Clock.seconds_lt (c : Clock) : c.seconds < 86400 := by
  have hour := c.hour_lt
  have minute := c.minute_lt
  have second := c.second_lt
  rw [seconds]
  omega

/-- The time of day is told by its seconds. -/
theorem Clock.eq_ofSeconds_iff {c : Clock} {n microsecond : Nat} (h : microsecond < 1000000) :
    ofSeconds n microsecond h = c ↔ c.seconds = n % 86400 ∧ c.microsecond = microsecond := by
  have hour := c.hour_lt
  have minute := c.minute_lt
  have second := c.second_lt
  rw [ext_iff_fields, seconds]
  simp only [ofSeconds]
  omega

namespace Moment

/-- **Adding seconds** leads to the moment that is numbered so much later, if there is one. -/
theorem add?_eq_some_iff {m m' : Moment} {offset : Int} :
    m.add? offset = some m' ↔
      (m'.seconds : Int) = m.seconds + offset ∧ m'.clock.microsecond = m.clock.microsecond := by
  obtain ⟨date, clock⟩ := m'
  have started := date.one_le_ordinal
  have inDay := clock.seconds_lt
  have total : Moment.seconds ⟨date, clock⟩ = (date.ordinal - 1) * 86400 + clock.seconds := rfl
  rw [add?]
  split
  · simp only [total, false_iff, reduceCtorEq]
    omega
  · rename_i late
    obtain ⟨later, sum⟩ := Int.eq_ofNat_of_zero_le (Int.not_lt.mp late)
    rw [sum, total]
    simp only [Option.map_eq_some_iff, Date.ofOrdinal?_eq_some_iff, Moment.mk.injEq,
      Int.toNat_natCast, Clock.eq_ofSeconds_iff]
    constructor
    · rintro ⟨_, number, rfl, inside, same⟩
      exact ⟨by omega, same⟩
    · rintro ⟨whole, same⟩
      exact ⟨date, by omega, rfl, by omega, same⟩

theorem isSome_add?_iff {m : Moment} {offset : Int} :
    (m.add? offset).isSome = true ↔
      0 ≤ m.seconds + offset ∧ m.seconds + offset < Date.lastOrdinal * 86400 := by
  rw [add?]
  split
  · simp only [Option.isSome_none, false_iff, Bool.false_eq_true]
    omega
  · rename_i late
    obtain ⟨later, sum⟩ := Int.eq_ofNat_of_zero_le (Int.not_lt.mp late)
    rw [sum, Option.isSome_map, Date.isSome_ofOrdinal?_iff, Date.lastOrdinal]
    omega

theorem seconds_mod (m : Moment) : m.seconds % 86400 = m.clock.seconds := by
  have inDay := m.clock.seconds_lt
  rw [seconds]
  omega

theorem seconds_epoch : epoch.seconds = 62135596800 := by decide

/-- A moment from 1970 on has a year of four digits. -/
theorem year_of_epoch_le {m : Moment} (h : epoch.seconds ≤ m.seconds) : 1000 ≤ m.date.year := by
  by_contra early
  have days := Date.ordinal_le_daysBeforeYear (Nat.lt_of_not_le early)
  have bound : Date.daysBeforeYear 1000 = 364877 := by decide
  have inDay := m.clock.seconds_lt
  rw [seconds_epoch, seconds] at h
  omega

end Moment
end MacroShell
