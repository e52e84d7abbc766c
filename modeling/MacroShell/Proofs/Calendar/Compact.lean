import Mathlib.Data.Bool.AllAny
import MacroShell.Proofs.Calendar.Literal

/-!
# Dates without separators

ISO 8601 also takes a date of eight digits, and behind it one character of any kind and a time of
day. A time of day leaves no letter unread unless an offset is given, so that no unit can stand in
it.
-/

namespace MacroShell
namespace Iso

/-! ## Octets -/

theorem octets_append (t u : Text) : octets (t ++ u) = octets t ++ octets u := by
  simp [octets, Utf8.encode]

theorem toNat_octet {n : Nat} (h : n < 256) : (Char.ofNat (UInt8.ofNat n).toNat).toNat = n := by
  have all : ∀ n < 256, (Char.ofNat (UInt8.ofNat n).toNat).toNat = n := by decide +kernel
  exact all n h

/-- A common character is its own octet. Any other has octets past the common ones. In both cases
the first octet tells how many there are. -/
theorem exists_octets (c : Char) :
    ∃ first tail, octets [c] = first :: tail ∧ octetCount first = tail.length + 1 ∧
      (c.toNat < 128 ∧ octets [c] = [c] ∨ 128 ≤ c.toNat ∧ ∀ a ∈ octets [c], 128 ≤ a.toNat) := by
  by_cases low : c.toNat < 128
  · have one : octetCount c = 1 := if_pos low
    exact ⟨c, [], octets_cons low [], one, Or.inl ⟨low, octets_cons low []⟩⟩
  · have code : c.val.toNat = c.toNat := rfl
    have none {a : Char} (mem : a ∈ []) : 128 ≤ a.toNat := absurd mem List.not_mem_nil
    simp only [octets, Utf8.encode, List.flatMap_cons, List.flatMap_nil, List.append_nil,
      String.utf8EncodeChar, code]
    split
    · omega
    split
    · refine ⟨_, _, rfl, ?_, Or.inr ⟨by omega, ?_⟩⟩
      · rw [octetCount, toNat_octet (by omega), if_neg (by omega), if_neg (by omega),
          if_neg (by omega)]
        rfl
      · simp only [List.map_cons, List.map_nil, List.forall_mem_cons]
        rw [toNat_octet (by omega), toNat_octet (by omega)]
        exact ⟨by omega, by omega, fun a => none⟩
    split
    · refine ⟨_, _, rfl, ?_, Or.inr ⟨by omega, ?_⟩⟩
      · rw [octetCount, toNat_octet (by omega), if_neg (by omega), if_pos (by omega)]
        rfl
      · simp only [List.map_cons, List.map_nil, List.forall_mem_cons]
        rw [toNat_octet (by omega), toNat_octet (by omega), toNat_octet (by omega)]
        exact ⟨by omega, by omega, by omega, fun a => none⟩
    · refine ⟨_, _, rfl, ?_, Or.inr ⟨by omega, ?_⟩⟩
      · rw [octetCount, toNat_octet (by omega), if_neg (by omega), if_neg (by omega),
          if_pos (by omega)]
        rfl
      · simp only [List.map_cons, List.map_nil, List.forall_mem_cons]
        rw [toNat_octet (by omega), toNat_octet (by omega), toNat_octet (by omega),
          toNat_octet (by omega)]
        exact ⟨by omega, by omega, by omega, by omega, fun a => none⟩

theorem octets_cons_append (c : Char) (t : Text) : octets (c :: t) = octets [c] ++ octets t :=
  octets_append [c] t

/-- The octets of the first character are passed over together. -/
theorem exists_octets_cons (c : Char) (t : Text) :
    ∃ first rest, octets (c :: t) = first :: rest ∧
      (first :: rest).drop (octetCount first) = octets t := by
  obtain ⟨first, tail, single, count, -⟩ := exists_octets c
  refine ⟨first, tail ++ octets t, ?_, ?_⟩
  · rw [octets_cons_append, single, List.cons_append]
  · rw [count, List.drop_succ_cons, List.drop_left]

theorem mem_octets_iff {a : Char} (low : a.toNat < 128) {t : Text} : a ∈ octets t ↔ a ∈ t := by
  induction t with
  | nil => rfl
  | cons c t ih =>
    have here : a ∈ octets [c] ↔ a = c := by
      obtain ⟨-, -, -, -, ⟨-, same⟩ | ⟨high, others⟩⟩ := exists_octets c
      · rw [same, List.mem_singleton]
      · constructor
        · intro mem
          exact absurd (others a mem) (by omega)
        · rintro rfl
          omega
    rw [octets_cons_append, List.mem_append, here, ih, List.mem_cons]

/-- Digits at the front of the octets are digits at the front of the text. -/
theorem exists_digits {count : Nat} {t : Text} (long : ((octets t).take count).length = count)
    (all : ∀ a ∈ (octets t).take count, a.isDigit = true) :
    ∃ digits rest, t = digits ++ rest ∧ digits.length = count ∧ ∀ c ∈ digits, c.isDigit = true := by
  induction count generalizing t with
  | zero => exact ⟨[], t, rfl, rfl, fun c mem => absurd mem List.not_mem_nil⟩
  | succ count ih =>
    cases t with
    | nil => cases long
    | cons c t =>
      obtain ⟨first, tail, single, -, ⟨low, -⟩ | ⟨-, others⟩⟩ := exists_octets c
      · rw [octets_cons low, List.take_succ_cons] at long all
        obtain ⟨digit, later⟩ := List.forall_mem_cons.mp all
        obtain ⟨digits, rest, rfl, length, plain⟩ := ih (Nat.succ.inj long) later
        exact ⟨c :: digits, rest, rfl, congrArg Nat.succ length,
          List.forall_mem_cons.mpr ⟨digit, plain⟩⟩
      · -- The first octet is no digit.
        rw [octets_cons_append, single, List.cons_append, List.take_succ_cons] at all
        have digit := toNat_of_isDigit (all first List.mem_cons_self)
        have high := others first (by rw [single]; exact List.mem_cons_self)
        omega

/-! ## Digits at the front -/

theorem takeDigits?_append {digits : Text} (h : ∀ c ∈ digits, c.isDigit = true) (s : Text) :
    takeDigits? digits.length (digits ++ s) = some (digitsValue digits, s) := by
  have all : digits.all Char.isDigit = true := List.all_eq_true.mpr h
  rw [takeDigits?, List.take_left, List.drop_left, all]
  simp

theorem exists_takeDigits? {count n : Nat} {t s : Text}
    (h : takeDigits? count (octets t) = some (n, s)) :
    ∃ digits rest, t = digits ++ rest ∧ digits.length = count ∧
      (∀ c ∈ digits, c.isDigit = true) ∧ n = digitsValue digits ∧ s = octets rest := by
  have taken := h
  unfold takeDigits? at taken
  split at taken
  · rename_i both
    rw [Bool.and_eq_true, decide_eq_true_eq, List.all_eq_true] at both
    obtain ⟨digits, rest, rfl, length, plain⟩ := exists_digits both.1 both.2
    rw [octets_digits_append plain, ← length, takeDigits?_append plain, Option.some.injEq,
      Prod.mk.injEq] at h
    exact ⟨digits, rest, rfl, length, plain, h.1.symm, h.2.symm⟩
  · cases taken

/-! ## Dates -/

/-- The digits of a date: four of the year, two of the month and two of the day. -/
def IsDate (t : Text) : Prop :=
  ∃ year month day, t = year ++ (month ++ day) ∧ year.length = 4 ∧ month.length = 2 ∧
    day.length = 2 ∧ (∀ c ∈ t, c.isDigit = true) ∧
    (Date.of? (digitsValue year) (digitsValue month) (digitsValue day)).isSome = true

/-- The digits of a date, any one character, and a time of day. -/
def IsDateTime (t : Text) : Prop :=
  ∃ date mark time, t = date ++ mark :: time ∧ IsDate date ∧ (readTime? (octets time)).isSome = true

theorem head?_octets_ne {t : Text} {a : Char} (low : a.toNat < 128) (h : t.head? ≠ some a) :
    (octets t).head? ≠ some a := by
  cases t with
  | nil => exact h
  | cons c t =>
    intro front
    obtain ⟨first, tail, single, -, ⟨common, -⟩ | ⟨-, others⟩⟩ := exists_octets c
    · rw [octets_cons common] at front
      exact h front
    · rw [octets_cons_append, single, List.cons_append, List.head?_cons, Option.some.injEq] at front
      have high := others first (by rw [single]; exact List.mem_cons_self)
      rw [front] at high
      omega

/-- Two digits are neither set apart by a dash nor the number of a week. -/
theorem exists_pair {month : Text} (two : month.length = 2)
    (digits : ∀ c ∈ month, c.isDigit = true) :
    ∃ a b, month = [a, b] ∧ a ≠ '-' ∧ a ≠ 'W' := by
  obtain ⟨a, b, rfl⟩ := List.length_eq_two.mp two
  have other {c : Char} (sign : c.isDigit = false) : a ≠ c := by
    rintro rfl
    rw [digits a List.mem_cons_self] at sign
    cases sign
  exact ⟨a, b, rfl, other (by decide), other (by decide)⟩

section
variable {year month day : Text} (four : year.length = 4) (two : month.length = 2)
  (last : day.length = 2) (plain : ∀ c ∈ year ++ (month ++ day), c.isDigit = true) (rest : Text)
include four two last plain

theorem readDate?_digits (length : Nat) :
    readDate? length (year ++ (month ++ (day ++ rest))) =
      Date.of? (digitsValue year) (digitsValue month) (digitsValue day) := by
  simp only [List.forall_mem_append] at plain
  obtain ⟨years, months, days⟩ := plain
  have readYear := takeDigits?_append years (month ++ (day ++ rest))
  have readMonth := takeDigits?_append months (day ++ rest)
  have readDay := takeDigits?_append days rest
  rw [four] at readYear
  rw [two] at readMonth
  rw [last] at readDay
  obtain ⟨a, b, rfl, dash, week⟩ := exists_pair two months
  rw [readDate?, readYear]
  simp only [List.cons_append, List.nil_append] at readMonth
  simp [dash, week, readMonth, readDay]

theorem dateLength_digits : dateLength (year ++ (month ++ (day ++ rest))) = 8 := by
  simp only [List.forall_mem_append] at plain
  obtain ⟨years, months, days⟩ := plain
  obtain ⟨a, b, rfl, dash, week⟩ := exists_pair two months
  have fifth : octetAt (year ++ ([a, b] ++ (day ++ rest))) 4 = a := by
    rw [octetAt, List.getD_eq_getElem?_getD, List.getElem?_append_right (by omega), four]
    rfl
  have long : (year ++ ([a, b] ++ (day ++ rest))).length ≠ 7 := by
    simp only [List.length_append, List.length_cons, List.length_nil]
    omega
  rw [dateLength, if_neg long, fifth, if_neg dash, if_neg week]

/-- What is read of a text that starts with the digits of a date. -/
theorem read?_digits :
    read? (year ++ (month ++ (day ++ rest))) =
      (Date.of? (digitsValue year) (digitsValue month) (digitsValue day)).bind fun date =>
        match rest with
        | [] => some ⟨⟨date, .midnight⟩, none⟩
        | _ :: time => (readTime? (octets time)).map fun read => ⟨⟨date, read.1⟩, read.2⟩ := by
  have split := plain
  simp only [List.forall_mem_append] at split
  obtain ⟨years, months, days⟩ := split
  have whole : octets (year ++ (month ++ (day ++ rest))) = year ++ (month ++ (day ++ octets rest)) := by
    rw [octets_digits_append years, octets_digits_append months, octets_digits_append days]
  have front : (year ++ (month ++ (day ++ octets rest))).drop 8 = octets rest := by
    have length : (year ++ (month ++ day)).length = 8 := by
      simp only [List.length_append]
      omega
    rw [show year ++ (month ++ (day ++ octets rest)) = (year ++ (month ++ day)) ++ octets rest by simp,
      List.drop_left' length]
  simp only [read?, whole, dateLength_digits four two last plain, front,
    readDate?_digits four two last plain]
  congr 1
  funext date
  cases rest with
  | nil => rfl
  | cons mark time =>
    obtain ⟨first, others, cons, passed⟩ := exists_octets_cons mark time
    simp only [cons, passed]
    cases readTime? (octets time) <;> rfl

end

/-- A date without dash and week mark starts with eight digits. -/
theorem exists_digits_of_read? {t : Text} (h : (read? t).isSome = true)
    (unmarked : ∀ year rest, t = year ++ rest → year.length = 4 → (∀ c ∈ year, c.isDigit = true) →
      rest.head? ≠ some '-' ∧ rest.head? ≠ some 'W') :
    ∃ year month day rest, t = year ++ (month ++ (day ++ rest)) ∧ year.length = 4 ∧
      month.length = 2 ∧ day.length = 2 ∧ ∀ c ∈ year ++ (month ++ day), c.isDigit = true := by
  obtain ⟨stamp, read⟩ := Option.isSome_iff_exists.mp h
  obtain ⟨date, read, -⟩ := Option.bind_eq_some_iff.mp read
  obtain ⟨⟨n, s⟩, readYear, read⟩ := Option.bind_eq_some_iff.mp read
  obtain ⟨year, rest, rfl, four, years, rfl, rfl⟩ := exists_takeDigits? readYear
  obtain ⟨dash, week⟩ := unmarked year rest rfl four years
  have noDash := head?_octets_ne (by decide) dash
  have noWeek := head?_octets_ne (by decide) week
  simp only [beq_iff_eq, noDash, if_false] at read
  split at read
  · rename_i front
    exact absurd (congrArg List.head? front) noWeek
  · obtain ⟨⟨m, s⟩, readMonth, read⟩ := Option.bind_eq_some_iff.mp read
    obtain ⟨month, rest, rfl, two, months, -, rfl⟩ := exists_takeDigits? readMonth
    obtain ⟨_, same, read⟩ := Option.bind_eq_some_iff.mp read
    cases same
    obtain ⟨⟨d, s⟩, readDay, -⟩ := Option.bind_eq_some_iff.mp read
    obtain ⟨day, rest, rfl, last, days, -, -⟩ := exists_takeDigits? readDay
    refine ⟨year, month, day, rest, rfl, four, two, last, ?_⟩
    simp only [List.forall_mem_append]
    exact ⟨years, months, days⟩

/-- **Which texts without dash and week mark are dates**: the digits of a date, alone or with a
character and a time of day behind them. -/
theorem isSome_read?_iff {t : Text} (unmarked : ∀ year rest, t = year ++ rest → year.length = 4 →
      (∀ c ∈ year, c.isDigit = true) → rest.head? ≠ some '-' ∧ rest.head? ≠ some 'W') :
    (read? t).isSome = true ↔ IsDate t ∨ IsDateTime t := by
  constructor
  · intro read
    obtain ⟨year, month, day, rest, rfl, four, two, last, plain⟩ :=
      exists_digits_of_read? read unmarked
    rw [read?_digits four two last plain] at read
    obtain ⟨stamp, read⟩ := Option.isSome_iff_exists.mp read
    obtain ⟨date, known, read⟩ := Option.bind_eq_some_iff.mp read
    have calendar := Option.isSome_of_eq_some known
    cases rest with
    | nil => exact Or.inl ⟨year, month, day, by simp, four, two, last, by simpa using plain, calendar⟩
    | cons mark time =>
      obtain ⟨clock, timed, -⟩ := Option.map_eq_some_iff.mp read
      exact Or.inr ⟨year ++ (month ++ day), mark, time, by simp,
        ⟨year, month, day, rfl, four, two, last, plain, calendar⟩, Option.isSome_of_eq_some timed⟩
  · rintro (⟨year, month, day, rfl, four, two, last, plain, calendar⟩ |
      ⟨-, mark, time, rfl, ⟨year, month, day, rfl, four, two, last, plain, calendar⟩, timed⟩)
    · obtain ⟨date, known⟩ := Option.isSome_iff_exists.mp calendar
      have read := read?_digits four two last plain []
      rw [List.append_nil, known, Option.bind_some] at read
      exact Option.isSome_of_eq_some read
    · obtain ⟨date, known⟩ := Option.isSome_iff_exists.mp calendar
      obtain ⟨clock, timed⟩ := Option.isSome_iff_exists.mp timed
      have read := read?_digits four two last plain (mark :: time)
      simp only [known, Option.bind_some, timed] at read
      rw [List.append_assoc, List.append_assoc, read]
      rfl

/-! ## Times of day with a letter in them -/

def isTimePart (c : Char) : Bool := c.isDigit || c == ':' || c == '.' || c == ','

/-- What follows a field of two digits: at most one more character, a colon and more fields, a
mark and a fraction, or more fields right away. -/
theorem readFields?_cases {next : Char} {count : Nat} {colons : Option Bool} {s : Text} {r : Reading}
    (h : readFields? next (count + 1) colons s = some r) :
    ∃ n rest more, takeDigits? 2 s = some (n, rest) ∧ r.leftover = more.leftover ∧
      (rest.length ≤ 1 ∧ more.leftover = (rest.head?.getD next != '\x00') ∨
        (∃ used, readFields? next count used (rest.drop 1) = some more ∧
          rest.head?.getD next = ':') ∨
        (readFraction? next (rest.drop 1) = some more ∧
          (rest.head?.getD next = '.' ∨ rest.head?.getD next = ',')) ∨
        ∃ used, readFields? next count used rest = some more) := by
  obtain ⟨⟨n, rest⟩, taken, h⟩ := Option.bind_eq_some_iff.mp h
  obtain ⟨more, read, rfl⟩ := Option.map_eq_some_iff.mp h
  refine ⟨n, rest, more, taken, rfl, ?_⟩
  split at read
  · rename_i short
    cases read
    exact Or.inl ⟨short, rfl⟩
  split at read
  · rename_i colon
    rw [Bool.and_eq_true, beq_iff_eq] at colon
    exact Or.inr (Or.inl ⟨_, read, colon.2⟩)
  split at read
  · rename_i point
    rw [Bool.or_eq_true, beq_iff_eq, beq_iff_eq] at point
    exact Or.inr (Or.inr (Or.inl ⟨read, point⟩))
  split at read
  · exact Or.inr (Or.inr (Or.inr ⟨_, read⟩))
  · cases read

section
variable {s : Text} {r : Reading} {u : Char} (letter : isTimePart u = false)
include letter

/-- A letter behind digits that were taken is still there. -/
theorem mem_of_takeDigits? {count n : Nat} {rest : Text} (mem : u ∈ s)
    (h : takeDigits? count s = some (n, rest)) : u ∈ rest ∧ rest <:+ s := by
  unfold takeDigits? at h
  split at h
  · rename_i both
    rw [Bool.and_eq_true, List.all_eq_true] at both
    cases h
    rw [← List.take_append_drop count s, List.mem_append] at mem
    refine ⟨mem.resolve_left fun digit => ?_, List.drop_suffix count s⟩
    simp [isTimePart, both.2 u digit] at letter
  · cases h

theorem leftover_of_readFraction? (mem : u ∈ s) (full : '\x00' ∉ s)
    (h : readFraction? '\x00' s = some r) : r.leftover = true := by
  obtain ⟨⟨n, rest⟩, taken, rfl⟩ := Option.map_eq_some_iff.mp h
  obtain ⟨mem, suffix⟩ := mem_of_takeDigits? letter mem taken
  have stays : rest.dropWhile Char.isDigit ≠ [] := by
    intro nil
    have digit := List.dropWhile_eq_nil_iff.mp nil u mem
    simp [isTimePart, digit] at letter
  obtain ⟨c, others, stop⟩ := List.exists_cons_of_ne_nil stays
  have within : c ∈ s := by
    apply suffix.subset
    apply (List.dropWhile_suffix Char.isDigit).subset
    rw [stop]
    exact List.mem_cons_self
  have known : c ≠ '\x00' := by
    rintro rfl
    exact full within
  simp [stop, known]

/-- Reading fields leaves a letter unread. -/
theorem leftover_of_readFields? {count : Nat} {colons : Option Bool} (mem : u ∈ s)
    (full : '\x00' ∉ s) (h : readFields? '\x00' count colons s = some r) : r.leftover = true := by
  induction count generalizing colons s r with
  | zero => exact leftover_of_readFraction? letter mem full h
  | succ count ih =>
    obtain ⟨n, rest, more, taken, same, kind⟩ := readFields?_cases h
    obtain ⟨mem, suffix⟩ := mem_of_takeDigits? letter mem taken
    obtain ⟨c, others, rfl⟩ := List.exists_cons_of_ne_nil (List.ne_nil_of_mem mem)
    have full : '\x00' ∉ c :: others := fun null => full (suffix.subset null)
    have later : '\x00' ∉ others := fun null => full (List.mem_cons_of_mem c null)
    -- A separator is passed over, which the letter is not.
    have behind (separator : isTimePart c = true) : u ∈ others := by
      rcases List.mem_cons.mp mem with rfl | behind
      · rw [letter] at separator
        cases separator
      · exact behind
    rw [same]
    rcases kind with ⟨-, stop⟩ | ⟨used, read, rfl⟩ | ⟨read, rfl | rfl⟩ | ⟨used, read⟩
    · have known : c ≠ '\x00' := by
        rintro rfl
        exact full List.mem_cons_self
      rw [stop]
      exact bne_iff_ne.mpr known
    · exact ih (behind rfl) later read
    · exact leftover_of_readFraction? letter (behind rfl) later read
    · exact leftover_of_readFraction? letter (behind rfl) later read
    · exact ih mem full read

/-- A time of day without an offset has no letter in it. -/
theorem readTime?_eq_none (mem : u ∈ s) (full : '\x00' ∉ s)
    (nearby : ∀ c ∈ s, isZoneMark c = false) : readTime? s = none := by
  have body : s.takeWhile (!isZoneMark ·) = s := by
    rw [List.takeWhile_eq_self_iff]
    intro c mem
    simp [nearby c mem]
  have zone : s.dropWhile (!isZoneMark ·) = [] := by
    rw [List.dropWhile_eq_nil_iff]
    intro c mem
    simp [nearby c mem]
  simp only [readTime?, body, zone]
  cases read : readFields? '\x00' 3 none s with
  | none => rfl
  | some r =>
    have leftover := leftover_of_readFields? letter mem full read
    simp [leftover]

omit letter in
/-- The marks of an offset and the null are common characters, so that no octet is one. -/
theorem notMem_octets {t : Text} (plain : ∀ a ∈ "-W+Z\x00".toList, a ∉ t) :
    ∀ a ∈ "-W+Z\x00".toList, a ∉ octets t := by
  have common : ∀ a ∈ "-W+Z\x00".toList, a.toNat < 128 := List.all_iff_forall_prop.mp (by decide)
  intro a known mem
  exact plain a known ((mem_octets_iff (common a known)).mp mem)

/-- Behind a date a letter is in the way, if there is no offset. -/
theorem readTime?_octets_eq_none {time : Text} (low : u.toNat < 128) (mem : u ∈ time)
    (plain : ∀ a ∈ "-W+Z\x00".toList, a ∉ time) : readTime? (octets time) = none := by
  have octet := notMem_octets plain
  have nearby : ∀ c ∈ octets time, isZoneMark c = false := by
    intro c mem
    rw [Bool.eq_false_iff]
    intro zone
    simp only [isZoneMark, Bool.or_eq_true, beq_iff_eq] at zone
    rcases zone with (rfl | rfl) | rfl
    · exact octet '+' (by decide) mem
    · exact octet '-' (by decide) mem
    · exact octet 'Z' (by decide) mem
  exact readTime?_eq_none letter ((mem_octets_iff low).mpr mem) (octet _ (by decide)) nearby

/-- A text that ends in a letter is no date, if it has neither of the marks of a date nor an
offset. -/
theorem read?_eq_none_of_letter {front : Text} (low : u.toNat < 128)
    (plain : ∀ a ∈ "-W+Z\x00".toList, a ∉ front ++ [u]) : read? (front ++ [u]) = none := by
  have unmarked : ∀ year rest, front ++ [u] = year ++ rest → year.length = 4 →
      (∀ c ∈ year, c.isDigit = true) → rest.head? ≠ some '-' ∧ rest.head? ≠ some 'W' := by
    intro year rest whole _ _
    rw [whole] at plain
    constructor
    · intro dash
      exact plain '-' (by decide) (List.mem_append_right year (List.mem_of_mem_head? dash))
    · intro week
      exact plain 'W' (by decide) (List.mem_append_right year (List.mem_of_mem_head? week))
  have noDigit : u.isDigit = false := by
    simp only [isTimePart, Bool.or_eq_false_iff] at letter
    exact letter.1.1.1
  rw [← Option.not_isSome_iff_eq_none, isSome_read?_iff unmarked]
  rintro (⟨-, -, -, -, -, -, -, digits, -⟩ | ⟨date, mark, time, whole, -, timed⟩)
  · rw [digits u (by simp)] at noDigit
    cases noDigit
  · rcases List.eq_nil_or_concat' time with rfl | ⟨others, v, rfl⟩
    · exact absurd timed (by decide)
    · have last : u ∈ others ++ [v] := by
        rw [← List.cons_append, ← List.append_assoc] at whole
        obtain ⟨-, same⟩ := List.append_inj' whole rfl
        rw [← same]
        exact List.mem_append_right others List.mem_cons_self
      have behind : others ++ [v] ⊆ front ++ [u] := by
        rw [whole]
        exact fun a mem => List.mem_append_right date (List.mem_cons_of_mem mark mem)
      rw [readTime?_octets_eq_none letter low last fun a known mem => plain a known (behind mem)]
        at timed
      cases timed

end

end Iso
end MacroShell
