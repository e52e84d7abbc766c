import MacroShell.Language.Literal
import MacroShell.Proofs.Calendar.Groups
import MacroShell.Proofs.Number.Operand
import MacroShell.Proofs.Number.Packing

/-!
# Faults of reading and writing

An integer past the digit limit can be neither read nor written, a layout need not fit, an infinite
number has no exact value. The readers and the writers are followed operation by operation, with
these faults and with the places at which they are caught.
-/

namespace MacroShell

inductive Fault
  /-- A text or a number that the operation does not take. -/
  | badValue
  /-- A result that cannot be represented. -/
  | overflow
  /-- A divisor of zero. -/
  | zeroDivisor
  /-- A place or a key under which nothing is found. -/
  | missing
  deriving DecidableEq

/-- What comes of an operation that may fail. -/
abbrev Attempt := Except Fault

namespace Attempt

section
variable {α β : Type}

/-- A result, or a fault if there is none. -/
def orFault (fault : Fault) : Option α → Attempt α
  | some a => .ok a
  | none => .error fault

/-- No result where a fault of the given kinds is caught; a fault of another kind goes on. -/
def caught (kinds : List Fault) : Attempt α → Attempt (Option α)
  | .ok a => .ok (some a)
  | .error fault => if fault ∈ kinds then .ok none else .error fault

@[simp] theorem ok_bind (a : α) (f : α → Attempt β) : (Except.ok a >>= f) = f a := rfl

@[simp] theorem map_ok (f : α → β) (a : α) : f <$> (Except.ok a : Attempt α) = .ok (f a) := rfl

theorem caught_orFault (fault : Fault) (a? : Option α) :
    caught [fault] (orFault fault a?) = .ok a? := by
  cases a? with
  | none => exact if_pos List.mem_cons_self
  | some a => rfl

end

/-! ## Operations -/

def integer (t : Text) : Attempt ℤ := orFault .badValue (readIntegerOperand? t)

def float (t : Text) : Attempt Float := orFault .badValue (readOperand? t)

def digits (n : ℤ) : Attempt Text := orFault .badValue (integerText? n)

def exactly (x : Float) : Attempt Dyadic :=
  orFault (if x.isNaN then .badValue else .overflow) (Dyadic.ofFloat? x)

def nearest (n : ℤ) (size : ℕ) : Attempt ℤ :=
  if size = 0 then .error .zeroDivisor else .ok (roundQuotient n size)

/-- The most days that may lie between two moments. -/
def mostDays : ℕ := 999999999

/-- A number of seconds as a distance between moments. -/
def distance (n : ℤ) : Attempt ℤ :=
  if (n / 86400).natAbs ≤ mostDays then .ok n else .error .overflow

def later (origin : Moment) (n : ℤ) : Attempt Moment := orFault .overflow (origin.add? n)

def isoStamp (t : Text) : Attempt Timestamp := orFault .badValue (Iso.read? t)

def alongLayout (t : Text) (layout : Layout) : Attempt Moment := orFault .badValue (layout.read? t)

def unitSize (unit : Char) : Attempt ℕ := orFault .missing (Duration.unitSize? unit)

/-! ## Readers -/

/-- Reads an integer literal; the digit limit is caught. -/
def readInteger (t : Text) : Attempt (Option ℤ) :=
  if isIntegerLiteral t.trim then caught [.badValue] (integer t.trim) else .ok none

def readDecimal (t : Text) : Attempt (Option Float) :=
  if (Decimal.read? t.trim).isSome then some <$> float t.trim else .ok none

def readNumber (t : Text) : Attempt (Option Number) := do
  match ← readInteger t with
  | some n => .ok (some (.integer n))
  | none => Option.map .float <$> readDecimal t

/-- Reads a text along the first layout that fits; that one does not fit is caught. -/
def alongFirst (t : Text) : List Layout → Attempt (Option Moment)
  | [] => .ok none
  | layout :: rest => do
    match ← caught [.badValue] (alongLayout t layout) with
    | some m => .ok (some m)
    | none => alongFirst t rest

/-- Reads an ISO 8601 text that is no run of digits; that there is none is caught. -/
def readIso (t : Text) : Attempt (Option Timestamp) :=
  if t.all isDigit then .ok none else caught [.badValue] (isoStamp t)

def readMoment (now : Moment) (t : Text) : Attempt (Option Timestamp) :=
  let t := t.trim
  if t.isEmpty then .ok none
  else do
    match ← readIso t with
    | some stamp => .ok (some stamp)
    | none =>
      match ← alongFirst t Layout.dates with
      | some m => .ok (some ⟨m, none⟩)
      | none =>
        let timed ← alongFirst t Layout.clocks
        .ok (timed.map fun m => ⟨⟨now.date, m.clock⟩, none⟩)

/-- Adds up the groups of a text in small letters, when the digits right before it are given. -/
def sumGroups (run : Text) : Text → Attempt ℤ
  | [] => .ok 0
  | c :: rest =>
    if isDecimal c then sumGroups (run ++ [c]) rest
    else if run ≠ [] ∧ c ∈ "smhd".toList then do
      let count ← integer run
      let size ← unitSize c
      let others ← sumGroups [] rest
      .ok (count * size + others)
    else sumGroups [] rest

def readDuration (t : Text) : Attempt ℤ :=
  let t := t.trim.lower
  if isIntegerLiteral t then integer t else sumGroups [] t

def detectKind (now : Moment) (t : Text) : Attempt Kind := do
  let t := t.trim
  let stamp ← readMoment now t
  if stamp.isSome then .ok .date
  else if Duration.isShape t then .ok .time
  else
    let number ← readNumber t
    if number.isSome then .ok .number
    else if (readBoolean? t).isSome then .ok .boolean
    else .ok .string

theorem readInteger_eq (t : Text) : readInteger t = .ok (readInteger? t) := by
  rw [readInteger, readInteger?]
  by_cases literal : isIntegerLiteral t.trim = true
  · rw [if_pos literal, if_pos literal, integer, readIntegerOperand?_of_isIntegerLiteral literal,
      caught_orFault]
  · rw [if_neg literal, if_neg literal]

theorem readDecimal_eq (t : Text) : readDecimal t = .ok (readDecimal? t) := by
  rw [readDecimal, readDecimal?]
  cases read : Decimal.read? t.trim with
  | none => rfl
  | some d =>
    rw [float, readOperand?_of_read? read]
    rfl

theorem readNumber_eq (t : Text) : readNumber t = .ok (Number.read? t) := by
  rw [readNumber, Number.read?, readInteger_eq, readDecimal_eq]
  cases readInteger? t <;> rfl

theorem alongFirst_eq (t : Text) (layouts : List Layout) :
    alongFirst t layouts = .ok (layouts.findSome? (·.read? t)) := by
  induction layouts with
  | nil => rfl
  | cons layout rest ih =>
    rw [alongFirst, alongLayout, caught_orFault, ok_bind, List.findSome?_cons, ih]
    cases layout.read? t <;> rfl

theorem readIso_eq (t : Text) : readIso t = .ok (if t.all isDigit then none else Iso.read? t) := by
  rw [readIso, isoStamp, caught_orFault]
  split <;> rfl

theorem readMoment_eq (now : Moment) (t : Text) :
    readMoment now t = .ok (readMoment? now t) := by
  simp only [readMoment, readMoment?, readIso_eq, alongFirst_eq, ok_bind]
  by_cases nothing : t.trim.isEmpty = true
  · rw [if_pos nothing, if_pos nothing]
  · rw [if_neg nothing, if_neg nothing]
    cases (if t.trim.all isDigit then none else Iso.read? t.trim) with
    | some stamp => rfl
    | none => cases Layout.dates.findSome? (·.read? t.trim) <;> rfl

theorem detectKind_eq (now : Moment) (t : Text) :
    detectKind now t = .ok (MacroShell.detectKind now t) := by
  simp only [detectKind, MacroShell.detectKind, readMoment_eq, readNumber_eq, ok_bind]
  split_ifs <;> rfl

/-! ## Durations -/

/-- Writes one group; a count of zero is left out. -/
def group (count : ℕ) (unit : Char) : Attempt Text :=
  if count = 0 then .ok [] else (· ++ [unit]) <$> digits count

/-- Writes a number of seconds without its sign as a duration. -/
def durationText (n : ℤ) : Attempt Text :=
  if n.natAbs = 0 then .ok "0s".toList
  else do
    let days ← group (n.natAbs / 86400) 'd'
    let hours ← group (n.natAbs % 86400 / 3600) 'h'
    let minutes ← group (n.natAbs % 3600 / 60) 'm'
    let seconds ← group (n.natAbs % 60) 's'
    .ok (days ++ hours ++ minutes ++ seconds)

theorem digits_eq {n : ℤ} (within : withinLimit n.natAbs = true) :
    digits n = .ok (integerText n) := by
  rw [digits, integerText?, if_pos within]
  rfl

theorem integer_digits {run : Text} (nonempty : run ≠ []) (all : ∀ c ∈ run, isDecimal c = true) :
    integer run = orFault .badValue ((digitsValue? run).map Int.ofNat) := by
  have sign := Decimal.takeSign_digits_append all nonempty []
  rw [List.append_nil] at sign
  have literal : isIntegerLiteral run = true := by
    rw [isIntegerLiteral, sign]
    exact isDigits_iff.mpr ⟨nonempty, all⟩
  rw [integer, readIntegerOperand?_of_isIntegerLiteral literal, integerValue?, sign]
  rfl

theorem exists_unitSize? {c : Char} (h : c ∈ "smhd".toList) :
    ∃ size, Duration.unitSize? c = some size := by
  have all : ∀ c ∈ "smhd".toList, (Duration.unitSize? c).isSome = true :=
    List.all_iff_forall_prop.mp (by decide)
  exact Option.isSome_iff_exists.mp (all c h)

theorem unitSize?_eq_none {c : Char} (h : c ∉ "smhd".toList) : Duration.unitSize? c = none := by
  unfold Duration.unitSize?
  split
  · exact absurd (by decide) h
  · exact absurd (by decide) h
  · exact absurd (by decide) h
  · exact absurd (by decide) h
  · rfl

/-- Adding up fails where a count is past the digit limit; its unit is always known. -/
theorem sumGroups_eq {run : Text} (all : ∀ c ∈ run, isDecimal c = true) (t : Text) :
    sumGroups run t = orFault .badValue ((Duration.sumGroups? (.of run) t).map Int.ofNat) := by
  induction t generalizing run with
  | nil => rfl
  | cons c rest ih =>
    -- Behind a unit, and behind what is in no group, the digits are forgotten.
    have later : sumGroups [] rest =
        orFault .badValue ((Duration.sumGroups? .none rest).map Int.ofNat) := ih (by simp)
    rw [sumGroups]
    by_cases digit : isDecimal c = true
    · have longer : ∀ d ∈ run ++ [c], isDecimal d = true := by
        intro d mem
        rcases List.mem_append.mp mem with before | here
        · exact all d before
        · rw [List.mem_singleton.mp here]
          exact digit
      rw [if_pos digit, ih longer, Duration.sumGroups?_digit digit]
    have letter : isDecimal c = false := Bool.eq_false_iff.mpr digit
    rw [if_neg digit]
    by_cases unit : run ≠ [] ∧ c ∈ "smhd".toList
    · obtain ⟨filled, known⟩ := unit
      obtain ⟨size, known'⟩ := exists_unitSize? known
      rw [if_pos ⟨filled, known⟩, integer_digits filled all, unitSize, known', later]
      by_cases within : run.length ≤ digitLimit
      · rw [Duration.sumGroups?_unit known' letter filled within, digitsValue?, if_pos within]
        cases Duration.sumGroups? .none rest <;> rfl
      · rw [Duration.sumGroups?_unit_of_long known' letter (not_le.mp within), digitsValue?,
          if_neg within]
        rfl
    · have other : run = [] ∨ Duration.unitSize? c = none := by
        by_cases nil : run = []
        · exact Or.inl nil
        · exact Or.inr (unitSize?_eq_none fun known => unit ⟨nil, known⟩)
      rw [if_neg unit, later, Duration.sumGroups?_other letter other]

/-- A duration fails to be read where a number in it is past the digit limit. -/
theorem readDuration_eq (t : Text) : readDuration t = orFault .badValue (Duration.read? t) := by
  simp only [readDuration, Duration.read?]
  by_cases literal : isIntegerLiteral t.trim.lower = true
  · rw [if_pos literal, if_pos literal, integer, readIntegerOperand?_of_isIntegerLiteral literal]
  · rw [if_neg literal, if_neg literal, sumGroups_eq (by simp)]
    rfl

theorem group_eq {count : ℕ} (within : withinLimit count = true) (unit : Char) :
    group count unit = .ok (Duration.group count unit) := by
  rw [group, Duration.group, digits_eq (n := count) within]
  split <;> rfl

/-- A duration fails to be written where its days are past the digit limit. -/
theorem durationText_eq (n : ℤ) : durationText n = orFault .badValue (Duration.text? n) := by
  have hours : withinLimit (n.natAbs % 86400 / 3600) = true := withinLimit_of_lt (by omega)
  have minutes : withinLimit (n.natAbs % 3600 / 60) = true := withinLimit_of_lt (by omega)
  have seconds : withinLimit (n.natAbs % 60) = true := withinLimit_of_lt (by omega)
  rw [durationText, Duration.text?]
  by_cases days : withinLimit (n.natAbs / 86400) = true
  · rw [if_pos days, group_eq days, group_eq hours, group_eq minutes, group_eq seconds,
      Duration.text]
    split <;> rfl
  · -- Only the days can be too long, and then they are not left out.
    have nonzero : n.natAbs / 86400 ≠ 0 := by
      intro zero
      rw [zero] at days
      exact days (withinLimit_of_lt (by decide))
    have positive : n.natAbs ≠ 0 := by
      intro zero
      rw [zero] at nonzero
      exact nonzero rfl
    rw [if_neg days, if_neg positive, group, if_neg nonzero, digits, integerText?,
      Int.natAbs_natCast, if_neg days]
    rfl

/-! ## Numbers -/

/-- Writes a number in floating point: a small integral one as an integer. -/
def floatText (x : Float) : Attempt Text :=
  if x.isFinite then do
    let d ← exactly x
    if d.isInteger && d.numerator < d.denominator * tenTo precision then
      digits (signed d.negative (d.numerator / d.denominator))
    else .ok ((if d.negative then ['-'] else []) ++ significantText d.numerator d.denominator)
  else .ok (MacroShell.floatText x)

def numberText : Number → Attempt Text
  | .integer n => digits n
  | .float x => floatText x

/-- An integral number below `10 ^ 15` is written well within the digit limit. -/
theorem withinLimit_quotient {d : Dyadic} (small : d.numerator < d.denominator * tenTo precision) :
    withinLimit (signed d.negative (d.numerator / d.denominator)).natAbs = true := by
  have bounded : d.numerator / d.denominator < tenTo precision := Nat.div_lt_of_lt_mul small
  have short := (length_naturalText_le_iff (by decide)).mpr bounded
  rw [natAbs_signed]
  exact withinLimit_iff.mpr (short.trans (by decide))

theorem floatText_eq (x : Float) : floatText x = .ok (MacroShell.floatText x) := by
  rw [floatText, isFinite_eq, exactly]
  cases known : Dyadic.ofFloat? x with
  | none => rfl
  | some d =>
    simp only [orFault, Option.isSome_some, if_true, ok_bind, MacroShell.floatText, known]
    by_cases small : (d.isInteger && d.numerator < d.denominator * tenTo precision) = true
    · have bounded : d.numerator < d.denominator * tenTo precision := by
        rw [Bool.and_eq_true, decide_eq_true_eq] at small
        exact small.2
      rw [if_pos small, if_pos small, digits_eq (withinLimit_quotient bounded)]
    · rw [if_neg small, if_neg small]

theorem numberText_eq (n : Number) : numberText n = orFault .badValue n.text? := by
  cases n with
  | integer n => rfl
  | float x => exact floatText_eq x

end Attempt
end MacroShell
