import MacroShell.Calendar.Duration
import MacroShell.Proofs.Number.Integer
import MacroShell.Proofs.Text.Case
import MacroShell.Proofs.Text.Space

/-!
# The canonical literals of durations

Each number of seconds has one canonical literal: counts from one on, each unit at most once and
the largest first, with every count but that of the days below what makes up the next unit.
-/

namespace MacroShell
namespace Duration

/-! ## The canonical literals -/

/-- Nothing, or a count and a unit; the count may be bounded. -/
def IsComponent (bound? : Option Nat) (unit : Char) (t : Text) : Prop :=
  t = [] ∨ ∃ count, IsCount count ∧ (∀ bound ∈ bound?, digitsValue count < bound) ∧
    t = count ++ [unit]

def IsCanonical (t : Text) : Prop :=
  t = "0s".toList ∨ t ≠ [] ∧ ∃ days hours minutes seconds,
    IsComponent none 'd' days ∧ IsComponent (some 24) 'h' hours ∧
    IsComponent (some 60) 'm' minutes ∧ IsComponent (some 60) 's' seconds ∧
    t = days ++ hours ++ minutes ++ seconds

theorem isComponent_group {bound? : Option Nat} {count : Nat} (unit : Char)
    (h : ∀ bound ∈ bound?, count < bound) : IsComponent bound? unit (group count unit) := by
  unfold group
  split
  · exact Or.inl rfl
  · refine Or.inr ⟨naturalText count, isCount_naturalText (by omega), ?_, rfl⟩
    rw [digitsValue_naturalText]
    exact h

theorem IsComponent.exists_group {bound? : Option Nat} {unit : Char} {t : Text}
    (h : IsComponent bound? unit t) (positive : ∀ bound ∈ bound?, 0 < bound) :
    ∃ count, (∀ bound ∈ bound?, count < bound) ∧ group count unit = t := by
  rcases h with rfl | ⟨digits, count, below, rfl⟩
  · exact ⟨0, positive, rfl⟩
  · obtain ⟨n, nonzero, rfl⟩ := isCount_iff.mp count
    rw [digitsValue_naturalText] at below
    refine ⟨n, below, ?_⟩
    rw [group, if_neg (by omega)]

theorem mem_group {count : Nat} (h : count ≠ 0) (unit : Char) : unit ∈ group count unit := by
  simp [group, h]

/-- A literal has a unit in it. -/
theorem exists_unit_mem_text (n : Nat) : ∃ unit ∈ text n, unit ∈ "dhms".toList := by
  unfold text
  split
  · exact ⟨'s', by decide, by decide⟩
  · have nonzero : n / 86400 ≠ 0 ∨ n % 86400 / 3600 ≠ 0 ∨ n % 3600 / 60 ≠ 0 ∨ n % 60 ≠ 0 := by
      omega
    rcases nonzero with days | hours | minutes | seconds
    · exact ⟨'d', by simp [mem_group days], by decide⟩
    · exact ⟨'h', by simp [mem_group hours], by decide⟩
    · exact ⟨'m', by simp [mem_group minutes], by decide⟩
    · exact ⟨'s', by simp [mem_group seconds], by decide⟩

theorem isCanonical_text (n : Nat) : IsCanonical (text n) := by
  by_cases zero : n = 0
  · subst zero
    exact Or.inl rfl
  · obtain ⟨unit, mem, -⟩ := exists_unit_mem_text n
    refine Or.inr ⟨List.ne_nil_of_mem mem, _, _, _, _, isComponent_group 'd' ?_,
      isComponent_group 'h' ?_, isComponent_group 'm' ?_, isComponent_group 's' ?_, if_neg zero⟩
    · simp
    all_goals
      rintro bound ⟨⟩
      omega

theorem text_add {days hours minutes seconds : Nat} (hh : hours < 24) (hm : minutes < 60)
    (hs : seconds < 60) (nonzero : 86400 * days + 3600 * hours + 60 * minutes + seconds ≠ 0) :
    text (86400 * days + 3600 * hours + 60 * minutes + seconds) =
      group days 'd' ++ group hours 'h' ++ group minutes 'm' ++ group seconds 's' := by
  rw [text, if_neg nonzero]
  congr <;> omega

theorem isCanonical_iff {t : Text} : IsCanonical t ↔ ∃ n, text n = t := by
  constructor
  · rintro (rfl | ⟨nonempty, _, _, _, _, hd, hh, hm, hs, rfl⟩)
    · exact ⟨0, rfl⟩
    · obtain ⟨days, -, rfl⟩ := hd.exists_group (by simp)
      obtain ⟨hours, below24, rfl⟩ := hh.exists_group (by simp)
      obtain ⟨minutes, below60, rfl⟩ := hm.exists_group (by simp)
      obtain ⟨seconds, below60', rfl⟩ := hs.exists_group (by simp)
      refine ⟨_, text_add (below24 24 rfl) (below60 60 rfl) (below60' 60 rfl) ?_⟩
      intro zero
      apply nonempty
      have all : days = 0 ∧ hours = 0 ∧ minutes = 0 ∧ seconds = 0 := by omega
      obtain ⟨rfl, rfl, rfl, rfl⟩ := all
      rfl
  · rintro ⟨n, rfl⟩
    exact isCanonical_text n

/-! ## Reading the groups -/

/-- What is known behind a run of digits. -/
def Run.of (digits : Text) : Run := ⟨digits.length, digitsValue digits⟩

theorem Run.push_of (digits : Text) (c : Char) : (of digits).push c = of (digits ++ [c]) := by
  rw [push, of, of, List.length_append, digitsValue_append_singleton]
  rfl

section
variable {digits : Text} {c : Char}

theorem sumGroups?_digit (digit : isDecimal c = true) (rest : Text) :
    sumGroups? (.of digits) (c :: rest) = sumGroups? (.of (digits ++ [c])) rest := by
  rw [sumGroups?, if_pos digit, Run.push_of]

theorem sumGroups?_unit {size : Nat} (known : unitSize? c = some size)
    (letter : isDecimal c = false) (filled : digits ≠ []) (within : digits.length ≤ digitLimit)
    (rest : Text) :
    sumGroups? (.of digits) (c :: rest) =
      (sumGroups? .none rest).map (digitsValue digits * size + ·) := by
  have nonzero : digits.length ≠ 0 := fun zero => filled (List.length_eq_zero_iff.mp zero)
  rw [sumGroups?, known]
  simp [Run.of, letter, nonzero, Nat.not_lt.mpr within]

theorem sumGroups?_unit_of_long {size : Nat} (known : unitSize? c = some size)
    (letter : isDecimal c = false) (long : digitLimit < digits.length) (rest : Text) :
    sumGroups? (.of digits) (c :: rest) = none := by
  have nonzero : digits.length ≠ 0 := by omega
  rw [sumGroups?, known]
  simp [Run.of, letter, nonzero, long]

/-- A unit without a count is passed over, and so is what is neither digit nor unit. -/
theorem sumGroups?_other (other : isDecimal c = false) (h : digits = [] ∨ unitSize? c = none)
    (rest : Text) : sumGroups? (.of digits) (c :: rest) = sumGroups? .none rest := by
  rw [sumGroups?, if_neg (by simp [other])]
  rcases h with rfl | none
  · cases unitSize? c <;> rfl
  · rw [none]

end

theorem sumGroups?_digits (before : Text) {digits : Text} (h : ∀ c ∈ digits, isDecimal c = true)
    (rest : Text) :
    sumGroups? (.of before) (digits ++ rest) = sumGroups? (.of (before ++ digits)) rest := by
  induction digits generalizing before with
  | nil => rw [List.append_nil, List.nil_append]
  | cons c digits ih =>
    obtain ⟨digit, others⟩ := List.forall_mem_cons.mp h
    rw [List.cons_append, sumGroups?_digit digit, ih _ others, List.append_assoc,
      List.singleton_append]

theorem sumGroups?_count (unit : Char) {size count : Nat} (known : unitSize? unit = some size)
    (letter : isDecimal unit = false) (within : withinLimit count = true) (rest : Text) :
    sumGroups? .none (naturalText count ++ unit :: rest) =
      (sumGroups? .none rest).map (count * size + ·) := by
  have digits : ∀ c ∈ naturalText count, isDecimal c = true := fun c =>
    isDecimal_of_mem_naturalText
  have read : sumGroups? .none (naturalText count ++ unit :: rest) =
      sumGroups? (.of (naturalText count)) (unit :: rest) := sumGroups?_digits [] digits _
  rw [read, sumGroups?_unit known letter (naturalText_ne_nil count) (withinLimit_iff.mp within),
    digitsValue_naturalText]

theorem sumGroups?_group (unit : Char) {size count : Nat} (known : unitSize? unit = some size)
    (letter : isDecimal unit = false) (within : withinLimit count = true) (rest : Text) :
    sumGroups? .none (group count unit ++ rest) =
      (sumGroups? .none rest).map (count * size + ·) := by
  by_cases zero : count = 0
  · subst zero
    simp [group]
  · rw [group, if_neg zero, List.append_assoc, List.singleton_append,
      sumGroups?_count unit known letter within]

theorem sumGroups?_text {n : Nat} (within : withinLimit (n / 86400) = true) :
    sumGroups? .none (text n) = some n := by
  unfold text
  split
  · subst n
    decide
  · have hours : withinLimit (n % 86400 / 3600) = true := withinLimit_of_lt (by omega)
    have minutes : withinLimit (n % 3600 / 60) = true := withinLimit_of_lt (by omega)
    have seconds : withinLimit (n % 60) = true := withinLimit_of_lt (by omega)
    have last : sumGroups? .none (group (n % 60) 's') = some (n % 60) := by
      have read := sumGroups?_group 's' rfl (by decide) seconds []
      simpa [sumGroups?] using read
    rw [List.append_assoc, List.append_assoc, sumGroups?_group 'd' rfl (by decide) within,
      sumGroups?_group 'h' rfl (by decide) hours, sumGroups?_group 'm' rfl (by decide) minutes,
      last]
    simp only [Option.map_some, Option.some.injEq]
    omega

/-! ## Rows of groups -/

theorem isGroups_count {digits : Text} (nonempty : digits ≠ [])
    (h : ∀ c ∈ digits, isDecimal c = true) {unit : Char} (letter : isDecimal unit = false)
    (known : isUnit unit = true) (before : Bool) (rest : Text) :
    isGroups before (digits ++ unit :: rest) = isGroups false rest := by
  induction digits generalizing before with
  | nil => exact absurd rfl nonempty
  | cons c digits ih =>
    obtain ⟨digit, others⟩ := List.forall_mem_cons.mp h
    rw [List.cons_append, isGroups, if_pos digit]
    cases digits with
    | nil => simp [isGroups, letter, known]
    | cons => exact ih (List.cons_ne_nil _ _) others true

/-! ## Reading what is written -/

theorem of_mem_group {count : Nat} {unit c : Char} (h : c ∈ group count unit) :
    c.isDigit = true ∨ c = unit := by
  unfold group at h
  split at h
  · cases h
  · rcases List.mem_append.mp h with digit | last
    · exact Or.inl (isDigit_of_mem_naturalText digit)
    · exact Or.inr (List.mem_singleton.mp last)

/-- What holds of the plain digits and of the units holds all along a literal. -/
theorem forall_mem_text {p : Char → Bool} (digits : ∀ d < 10, p (Nat.digitChar d) = true)
    (units : "dhms".toList.all p = true) (n : Nat) : ∀ c ∈ text n, p c = true := by
  have known : p 'd' = true ∧ p 'h' = true ∧ p 'm' = true ∧ p 's' = true := by simpa using units
  obtain ⟨days, hours, minutes, seconds⟩ := known
  have inGroup {count : Nat} {unit c : Char} (letter : p unit = true)
      (mem : c ∈ group count unit) : p c = true := by
    rcases of_mem_group mem with digit | rfl
    · obtain ⟨d, small, rfl⟩ := exists_digitChar digit
      exact digits d small
    · exact letter
  intro c mem
  unfold text at mem
  split at mem
  · have zero : p '0' = true := digits 0 (by decide)
    rcases List.mem_pair.mp mem with rfl | rfl <;> assumption
  · simp only [List.mem_append] at mem
    rcases mem with ((mem | mem) | mem) | mem
    · exact inGroup days mem
    · exact inGroup hours mem
    · exact inGroup minutes mem
    · exact inGroup seconds mem

theorem isIntegerLiteral_text (n : Nat) : isIntegerLiteral (text n) = false := by
  have others : "dhms".toList.all (fun c => !isDecimal c && c != '-' && c != '+') = true := by
    decide
  obtain ⟨unit, mem, letter⟩ := exists_unit_mem_text n
  have other := List.all_eq_true.mp others unit letter
  rw [Bool.eq_false_iff]
  intro literal
  rcases of_isIntegerLiteral literal unit mem with digit | rfl | rfl
  · simp [digit] at other
  · simp at other
  · simp at other

theorem trim_text (n : Nat) : Text.trim (text n) = text n := by
  apply Text.trim_eq_self
  simpa using forall_mem_text (p := (!isSpace ·)) (by decide) (by decide) n

theorem read?_text {n : Nat} (within : withinLimit (n / 86400) = true) :
    read? (text n) = some (n : Int) := by
  have lowered : Text.lower (text n) = text n := by
    apply Text.lower_eq_self
    simpa using forall_mem_text (p := fun c => smallForm c == [c]) (by decide) (by decide) n
  rw [read?, trim_text, lowered]
  simp only [isIntegerLiteral_text, sumGroups?_text within]
  rfl

/-- The days of a literal are one of its runs of digits. -/
theorem withinLimit_days {n : Nat}
    (h : ∀ digits, digits <:+: text n → (∀ c ∈ digits, isDecimal c = true) →
      digits.length ≤ digitLimit) : withinLimit (n / 86400) = true := by
  by_cases none : n / 86400 = 0
  · rw [none]
    decide
  · apply withinLimit_iff.mpr
    apply h
    · have nonzero : n ≠ 0 := by
        rintro rfl
        exact none rfl
      refine ⟨[], 'd' :: (group (n % 86400 / 3600) 'h' ++ group (n % 3600 / 60) 'm' ++
        group (n % 60) 's'), ?_⟩
      simp [text, group, nonzero, none]
    · intro c mem
      exact isDecimal_of_isDigit (isDigit_of_mem_naturalText mem)

/-- **Durations and canonical literals correspond.** Every number of seconds, up to its sign and
within the digit limit, has a canonical literal that is read back as the number. A text without
longer runs of digits comes back from reading and writing if and only if it is canonical. -/
theorem canonical_roundTrip :
    (∀ n : Int, withinLimit n.natAbs = true →
      ∃ t, text? n = some t ∧ IsCanonical t ∧ read? t = some (n.natAbs : Int)) ∧
    ∀ t : Text,
      (∀ digits, digits <:+: t → (∀ c ∈ digits, isDecimal c = true) →
        digits.length ≤ digitLimit) →
      ((read? t).bind text? = some t ↔ IsCanonical t) := by
  constructor
  · intro n within
    have days : withinLimit (n.natAbs / 86400) = true :=
      withinLimit_mono (Nat.div_le_self _ _) within
    exact ⟨text n.natAbs, if_pos days, isCanonical_text _, read?_text days⟩
  · intro t short
    constructor
    · intro same
      obtain ⟨n, -, written⟩ := Option.bind_eq_some_iff.mp same
      unfold text? at written
      split at written
      · exact isCanonical_iff.mpr ⟨_, Option.some.inj written⟩
      · cases written
    · intro canonical
      obtain ⟨n, rfl⟩ := isCanonical_iff.mp canonical
      have days := withinLimit_days short
      rw [read?_text days, Option.bind_some]
      exact if_pos days

/-- Sixty minutes are written as an hour. -/
theorem canonical_roundTrip_hour :
    (∃ t, text? (-93784) = some t ∧ IsCanonical t ∧ read? t = some 93784) ∧
      IsCanonical "1d2h3m4s".toList ∧ ¬ IsCanonical "60m".toList := by
  obtain ⟨written, back⟩ := canonical_roundTrip
  have brief : ∀ t : Text, t.length ≤ 8 → ∀ digits, digits <:+: t →
      (∀ c ∈ digits, isDecimal c = true) → digits.length ≤ digitLimit := by
    intro t short digits part _
    have limit : 8 ≤ digitLimit := by decide
    exact (part.length_le.trans short).trans limit
  have day := back "1d2h3m4s".toList (brief _ (by decide))
  have hour := back "60m".toList (brief _ (by decide))
  refine ⟨written (-93784) (by decide), day.mp (by decide), ?_⟩
  intro canonical
  exact absurd (hour.mpr canonical) (by decide)

end Duration
end MacroShell
