import Mathlib.Data.Bool.AllAny
import MacroShell.Number.Decimal
import MacroShell.Proofs.Number.Integer
import MacroShell.Proofs.Unicode.Classes

/-!
# Decimal literals

A decimal literal is read part by part: a run of digits, a point and another run, and an
exponent.
-/

namespace MacroShell

/-! ## Signs -/

/-- A text that starts with neither sign is all magnitude. -/
theorem takeSign_of_head {t : Text} (h : ∀ c ∈ t.head?, c ≠ '-' ∧ c ≠ '+') :
    takeSign t = (false, t) := by
  unfold takeSign
  split
  · exact absurd rfl (h '-' rfl).1
  · exact absurd rfl (h '+' rfl).2
  · rfl

theorem mem_takeSign {t : Text} {c : Char} (h : c ∈ t) :
    c = '-' ∨ c = '+' ∨ c ∈ (takeSign t).2 := by
  unfold takeSign
  split
  · exact (List.mem_cons.mp h).elim Or.inl fun rest => Or.inr (Or.inr rest)
  · exact (List.mem_cons.mp h).elim (fun plus => Or.inr (Or.inl plus)) fun rest =>
      Or.inr (Or.inr rest)
  · exact Or.inr (Or.inr h)

theorem isDigits_iff {t : Text} : isDigits t = true ↔ t ≠ [] ∧ ∀ c ∈ t, isDecimal c = true := by
  rw [isDigits, Bool.and_eq_true, List.all_eq_true]
  simp

namespace Decimal

/-! ## Literals part by part -/

section
variable {whole : Text} (digits : ∀ c ∈ whole, isDecimal c = true)
include digits

theorem takeWhile_digits {tail : Text} (ends : ∀ c ∈ tail.head?, isDecimal c = false) :
    (whole ++ tail).takeWhile isDecimal = whole ∧ (whole ++ tail).dropWhile isDecimal = tail := by
  rw [List.takeWhile_append_of_pos digits, List.dropWhile_append_of_pos digits]
  cases tail with
  | nil => simp
  | cons c tail => simp [ends c rfl]

theorem takeSign_digits_append (nonempty : whole ≠ []) (tail : Text) :
    takeSign (whole ++ tail) = (false, whole ++ tail) := by
  apply takeSign_of_head
  obtain ⟨c, others, rfl⟩ := List.exists_cons_of_ne_nil nonempty
  have digit := digits c List.mem_cons_self
  intro d first
  obtain rfl : c = d := Option.some.inj first
  have signs : isDecimal '-' = false ∧ isDecimal '+' = false := by decide
  constructor
  · rintro rfl
    rw [signs.1] at digit
    cases digit
  · rintro rfl
    rw [signs.2] at digit
    cases digit

/-- Digits, and no point behind them. -/
theorem read?_whole (nonempty : whole ≠ []) {tail : Text}
    (ends : ∀ c ∈ tail.head?, isDecimal c = false ∧ c ≠ '.') :
    read? (whole ++ tail) =
      (readExponent? tail).map fun exponent => ⟨false, digitsValue whole, exponent⟩ := by
  obtain ⟨front, back⟩ := takeWhile_digits digits fun c mem => (ends c mem).1
  rw [read?, takeSign_digits_append digits nonempty]
  simp only [front, back]
  cases tail with
  | nil => simp [nonempty]
  | cons c tail =>
    have point : c ≠ '.' := (ends c rfl).2
    simp [point, nonempty]

/-- Digits with a point among them. -/
theorem read?_pointed (nonempty : whole ≠ []) {fraction : Text}
    (others : ∀ c ∈ fraction, isDecimal c = true) {tail : Text}
    (ends : ∀ c ∈ tail.head?, isDecimal c = false) :
    read? (whole ++ '.' :: (fraction ++ tail)) =
      (readExponent? tail).map fun exponent =>
        ⟨false, digitsValue (whole ++ fraction), exponent - fraction.length⟩ := by
  have stop : ∀ c ∈ ('.' :: (fraction ++ tail)).head?, isDecimal c = false := by
    rintro - ⟨⟩
    decide
  obtain ⟨front, back⟩ := takeWhile_digits digits stop
  obtain ⟨middle, rest⟩ := takeWhile_digits others ends
  rw [read?, takeSign_digits_append digits nonempty]
  simp only [front, back, middle, rest]
  simp [nonempty]

end

/-- Integers of any length are decimal literals. -/
theorem read?_of_isIntegerLiteral {t : Text} (h : isIntegerLiteral t = true) :
    read? t = some ⟨(takeSign t).1, digitsValue (takeSign t).2, 0⟩ := by
  obtain ⟨nonempty, digits⟩ := isDigits_iff.mp h
  obtain ⟨front, back⟩ := @takeWhile_digits _ digits [] (by simp)
  rw [List.append_nil] at front back
  rw [read?]
  simp only [front, back]
  simp [nonempty, readExponent?]

/-! ## The characters of a literal -/

theorem mem_readExponent? {t : Text} (h : (readExponent? t).isSome = true) {c : Char} (mem : c ∈ t) :
    isDecimal c = true ∨ c ∈ "+-eE".toList := by
  cases t with
  | nil => cases mem
  | cons mark rest =>
    simp only [readExponent?] at h
    split at h
    · rename_i both
      rw [Bool.and_eq_true, Bool.or_eq_true, decide_eq_true_eq, decide_eq_true_eq] at both
      have marks : 'e' ∈ "+-eE".toList ∧ 'E' ∈ "+-eE".toList := by decide
      have signs : '-' ∈ "+-eE".toList ∧ '+' ∈ "+-eE".toList := by decide
      rcases List.mem_cons.mp mem with rfl | later
      · rcases both.1 with rfl | rfl
        · exact Or.inr marks.1
        · exact Or.inr marks.2
      · rcases mem_takeSign later with rfl | rfl | digit
        · exact Or.inr signs.1
        · exact Or.inr signs.2
        · exact Or.inl ((isDigits_iff.mp both.2).2 c digit)
    · cases h

theorem mem_cases {t : Text} (h : (read? t).isSome = true) {c : Char} (mem : c ∈ t) :
    isDecimal c = true ∨ c ∈ "+-.eE".toList := by
  have signs : '-' ∈ "+-.eE".toList ∧ '+' ∈ "+-.eE".toList := by decide
  have marks : ∀ c ∈ "+-eE".toList, c ∈ "+-.eE".toList :=
    List.all_iff_forall_prop.mp (by decide)
  have digit {u : Text} (mem : c ∈ u.takeWhile isDecimal) : isDecimal c = true :=
    List.all_eq_true.mp List.all_takeWhile c mem
  rcases mem_takeSign mem with rfl | rfl | mem
  · exact Or.inr signs.1
  · exact Or.inr signs.2
  rw [← List.takeWhile_append_dropWhile (p := isDecimal) (l := (takeSign t).2), List.mem_append] at mem
  rcases mem with front | mem
  · exact Or.inl (digit front)
  simp only [read?] at h
  split at h
  · rename_i rest cut
    split at h
    · cases h
    rw [Option.isSome_map] at h
    rw [cut] at mem
    rcases List.mem_cons.mp mem with rfl | mem
    · exact Or.inr (by decide)
    rw [← List.takeWhile_append_dropWhile (p := isDecimal) (l := rest), List.mem_append] at mem
    rcases mem with fraction | tail
    · exact Or.inl (digit fraction)
    · exact (mem_readExponent? h tail).imp_right (marks c)
  · split at h
    · cases h
    rw [Option.isSome_map] at h
    exact (mem_readExponent? h mem).imp_right (marks c)

theorem notMem {t : Text} (h : (read? t).isSome = true) {a : Char}
    (noDigit : isDecimal a = false) (noMark : a ∉ "+-.eE".toList) : a ∉ t := by
  intro mem
  rcases mem_cases h mem with digit | mark
  · rw [noDigit] at digit
    cases digit
  · exact noMark mark

theorem isSpace_of_mem {t : Text} (h : (read? t).isSome = true) :
    ∀ c ∈ t, isSpace c = false := by
  have marks : ∀ c ∈ "+-.eE".toList, isSpace c = false := List.all_iff_forall_prop.mp (by decide)
  intro c mem
  rw [Bool.eq_false_iff]
  intro space
  refine notMem h (isDecimal_of_isSpace space) ?_ mem
  intro mark
  rw [marks c mark] at space
  cases space

/-- A numeral has no space around it. -/
theorem trim_eq_self {t : Text} (h : (read? t).isSome = true) : t.trim = t :=
  Text.trim_eq_self (isSpace_of_mem h)

end Decimal
end MacroShell
