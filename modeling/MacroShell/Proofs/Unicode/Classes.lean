import MacroShell.Unicode.Digit
import MacroShell.Unicode.Space
import MacroShell.Unicode.Word

/-!
# Classes of characters

A class with few code points is checked one by one, and a long one against whole ranges.
-/

namespace MacroShell

def CodeRanges.codes (ranges : CodeRanges) : List Nat :=
  ranges.flatMap fun (first, last) => List.range' first (last + 1 - first)

theorem CodeRanges.mem_codes_of_contains {ranges : CodeRanges} {n : Nat}
    (h : ranges.contains n = true) : n ∈ ranges.codes := by
  induction ranges with
  | nil => cases h
  | cons range rest ih =>
    obtain ⟨first, last⟩ := range
    rw [contains] at h
    split at h
    · cases h
    · rw [Bool.or_eq_true, decide_eq_true_eq] at h
      rw [codes, List.flatMap_cons, List.mem_append, List.mem_range'_1]
      rcases h with here | later
      · left; omega
      · exact Or.inr (ih later)

/-- Whether some range has a code point from `low` to `high`; the search stops at the first range
above them. -/
def CodeRanges.meets : CodeRanges → Nat → Nat → Bool
  | [], _, _ => false
  | (first, last) :: rest, low, high =>
    if high < first then false else low ≤ last || meets rest low high

theorem CodeRanges.meets_of_contains {ranges : CodeRanges} {low high n : Nat}
    (h : ranges.contains n = true) (above : low ≤ n) (below : n ≤ high) :
    ranges.meets low high = true := by
  induction ranges with
  | nil => cases h
  | cons range rest ih =>
    obtain ⟨first, last⟩ := range
    rw [contains] at h
    split at h
    · cases h
    · rw [meets, if_neg (by omega)]
      rw [Bool.or_eq_true, decide_eq_true_eq] at *
      rcases h with here | later
      · left; omega
      · exact Or.inr (ih later)

set_option maxRecDepth 4000 in
theorem isWord_of_isSpace {c : Char} (h : isSpace c = true) : isWord c = false := by
  have apart : ∀ n ∈ spaceRanges.codes, wordRanges.contains n = false := by decide
  exact apart c.toNat (CodeRanges.mem_codes_of_contains h)

theorem isDecimal_of_isSpace {c : Char} (h : isSpace c = true) : isDecimal c = false := by
  have apart : ∀ n ∈ spaceRanges.codes, decimalRanges.contains n = false := by decide
  exact apart c.toNat (CodeRanges.mem_codes_of_contains h)

theorem isDigit_of_isSpace {c : Char} (h : isSpace c = true) : isDigit c = false := by
  have apart : ∀ n ∈ spaceRanges.codes, otherDigitRanges.contains n = false := by decide
  rw [isDigit, isDecimal_of_isSpace h, apart c.toNat (CodeRanges.mem_codes_of_contains h),
    Bool.or_false]

end MacroShell
