import MacroShell.Number.Operand
import MacroShell.Proofs.Number.Decimal
import MacroShell.Proofs.Text.Case

/-!
# Literals as operands

A number is read as an operand with more freedom than as a literal of the language: low lines may
group its digits, and special values have names. On literals both readers agree.
-/

namespace MacroShell

/-! ## Texts without low lines -/

theorem trimOperand_eq_self {t : Text} (h : ∀ c ∈ t, isSpace c = false) : trimOperand t = t := by
  have keeps {u : Text} (solid : ∀ c ∈ u, isSpace c = false) : u.dropWhile isOperandSpace = u := by
    cases u with
    | nil => rfl
    | cons c rest =>
      have other : isOperandSpace c = false := by
        rw [isOperandSpace, solid c List.mem_cons_self, Bool.false_and]
      simp [other]
  have back : ∀ c ∈ t.reverse, isSpace c = false := fun c mem => h c (List.mem_reverse.mp mem)
  rw [trimOperand, keeps h, keeps back, List.reverse_reverse]

theorem dropLowLines?_eq_self {t : Text} (h : '_' ∉ t) : dropLowLines? t = some t := by
  induction t using dropLowLines?.induct with
  | case1 => rfl
  | case2 rest => exact absurd List.mem_cons_self h
  | case3 c d rest digits ih => exact absurd (by simp) h
  | case4 c d rest other => exact absurd (by simp) h
  | case5 c rest first second ih =>
    have others := ih (List.not_mem_of_not_mem_cons h)
    rw [dropLowLines?.eq_4 _ _ first second, others]
    rfl

/-! ## Texts without special values -/

/-- The letter that all names of special values have. -/
theorem of_toLower_eq_n (c : Char) : c.toLower = 'n' → c = 'n' ∨ c = 'N' := by
  apply toLower_cases (p := fun c => c.toLower = 'n' → c = 'n' ∨ c = 'N')
  · decide
  · intro c same small
    exact Or.inl (same.symm.trans small)

theorem takeSign_subset (t : Text) : (takeSign t).2 ⊆ t := by
  unfold takeSign
  split
  · exact List.subset_cons_self _ _
  · exact List.subset_cons_self _ _
  · exact List.Subset.refl t

theorem specialValue?_eq_none {t : Text} (small : 'n' ∉ t) (large : 'N' ∉ t) :
    specialValue? ((takeSign t).2.map Char.toLower) = none := by
  have letter : 'n' ∉ (takeSign t).2.map Char.toLower := by
    intro mem
    obtain ⟨c, inside, lower⟩ := List.mem_map.mp mem
    rcases of_toLower_eq_n c lower with rfl | rfl
    · exact small (takeSign_subset t inside)
    · exact large (takeSign_subset t inside)
  have names : 'n' ∈ "inf".toList ∧ 'n' ∈ "infinity".toList ∧ 'n' ∈ "nan".toList := by decide
  have other {name : Text} (mem : 'n' ∈ name) : (takeSign t).2.map Char.toLower ≠ name := by
    rintro rfl
    exact letter mem
  rw [specialValue?, decide_eq_false (other names.1), decide_eq_false (other names.2.1),
    Bool.or_self, if_neg Bool.false_ne_true, if_neg (other names.2.2)]

/-- A text without any of these is read as a literal. -/
theorem readOperand?_eq {t : Text} (solid : ∀ c ∈ t, isSpace c = false) (low : '_' ∉ t)
    (small : 'n' ∉ t) (large : 'N' ∉ t) :
    readOperand? t = (Decimal.read? t).map Decimal.toFloat := by
  rw [readOperand?, trimOperand_eq_self solid]
  simp only [specialValue?_eq_none small large, dropLowLines?_eq_self low, Option.bind_some]

/-! ## Literals -/

theorem readOperand?_of_read? {t : Text} {d : Decimal} (h : Decimal.read? t = some d) :
    readOperand? t = some d.toFloat := by
  have literal : (Decimal.read? t).isSome = true := by
    rw [h]
    rfl
  have low : '_' ∉ t := Decimal.notMem literal (by decide) (by decide)
  have small : 'n' ∉ t := Decimal.notMem literal (by decide) (by decide)
  have large : 'N' ∉ t := Decimal.notMem literal (by decide) (by decide)
  rw [readOperand?_eq (Decimal.isSpace_of_mem literal) low small large, h, Option.map_some]

theorem readIntegerOperand?_of_isIntegerLiteral {t : Text} (h : isIntegerLiteral t = true) :
    readIntegerOperand? t = integerValue? t := by
  have literal : (Decimal.read? t).isSome = true := by
    rw [Decimal.read?_of_isIntegerLiteral h]
    rfl
  have low : '_' ∉ t := Decimal.notMem literal (by decide) (by decide)
  rw [readIntegerOperand?, trimOperand_eq_self (Decimal.isSpace_of_mem literal),
    dropLowLines?_eq_self low, Option.bind_some, if_pos h]

end MacroShell
