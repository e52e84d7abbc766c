import MacroShell.Proofs.Number.Written

/-!
# Reading what is written

The text of significant digits is read back as their value: as an integer if there is neither a
point nor an exponent in it, and as a decimal literal otherwise.
-/

namespace MacroShell

/-! ## Exponents -/

theorem exponentText_eq (k : ℤ) :
    ∃ digits : Text, exponentText k = 'e' :: (if k < 0 then '-' else '+') :: digits ∧
      digits ≠ [] ∧ (∀ c ∈ digits, c.isDigit = true) ∧ digitsValue digits = k.natAbs := by
  have plain : ∀ c ∈ naturalText k.natAbs, c.isDigit = true := fun c => isDigit_of_mem_naturalText
  by_cases short : (naturalText k.natAbs).length < 2
  · refine ⟨'0' :: naturalText k.natAbs, ?_, List.cons_ne_nil _ _, ?_, ?_⟩
    · rw [exponentText]
      simp only [short, if_true]
    · exact List.forall_mem_cons.mpr ⟨by decide, plain⟩
    · have zero : digitsValue ['0'] = 0 := by decide
      rw [← List.singleton_append, digitsValue_append, zero, zero_mul, zero_add,
        digitsValue_naturalText]
  · refine ⟨naturalText k.natAbs, ?_, naturalText_ne_nil _, plain, digitsValue_naturalText _⟩
    rw [exponentText]
    simp only [short, if_false]

theorem readExponent?_exponentText (k : ℤ) : Decimal.readExponent? (exponentText k) = some k := by
  obtain ⟨digits, text, nonempty, plain, value⟩ := exponentText_eq k
  have decimal : isDigits digits = true :=
    isDigits_iff.mpr ⟨nonempty, fun c mem => isDecimal_of_isDigit (plain c mem)⟩
  rw [text, Decimal.readExponent?]
  by_cases negative : k < 0
  · have size : signed true k.natAbs = k := by
      rw [signed, if_pos rfl]
      omega
    rw [if_pos negative]
    simp [takeSign, decimal, value, size]
  · have size : signed false k.natAbs = k := by
      rw [signed, if_neg Bool.false_ne_true]
      omega
    rw [if_neg negative]
    simp [takeSign, decimal, value, size]

/-! ## Digits around a point -/

/-- Zeros at the end of a fraction make no difference. -/
theorem value_dropLastZeros (whole fraction : Text) (x : ℤ) :
    (digitsValue (whole ++ fraction) : ℚ) * 10 ^ (x - fraction.length) =
      digitsValue (whole ++ dropLastZeros fraction) * 10 ^ (x - (dropLastZeros fraction).length) := by
  obtain ⟨j, split⟩ := exists_dropLastZeros fraction
  have length : fraction.length = (dropLastZeros fraction).length + j := by
    conv_lhs => rw [split]
    simp
  conv_lhs => rw [split, ← List.append_assoc, digitsValue_append, digitsValue_zeros]
  rw [← split, length, List.length_replicate, add_zero, Nat.cast_mul, Nat.cast_pow, Nat.cast_ofNat,
    mul_assoc, ten_pow_mul_zpow j]
  push_cast
  omega

section
variable {whole fraction tail : Text} (nonempty : whole ≠ [])
  (digits : ∀ c ∈ whole, isDecimal c = true) (others : ∀ c ∈ fraction, isDecimal c = true)
include nonempty digits others

/-- A literal with a point is read as its digits, with the exponent lower by those behind the point. -/
theorem magnitude_pointed (ends : ∀ c ∈ tail.head?, isDecimal c = false ∧ c ≠ '.') {x : ℤ}
    (exponent : Decimal.readExponent? tail = some x) :
    ∃ d, Decimal.read? (pointed whole fraction ++ tail) = some d ∧ d.negative = false ∧
      d.magnitude = digitsValue (whole ++ fraction) * 10 ^ (x - fraction.length) := by
  rw [value_dropLastZeros, pointed]
  have inner : ∀ c ∈ dropLastZeros fraction, isDecimal c = true := by
    intro c mem
    exact others c ((List.rdropWhile_prefix _ _).subset mem)
  cases stop : dropLastZeros fraction with
  | nil =>
    refine ⟨⟨false, digitsValue whole, x⟩, ?_, rfl, ?_⟩
    · rw [Decimal.read?_whole digits nonempty ends, exponent]
      rfl
    · rw [Decimal.magnitude, List.append_nil]
      simp
  | cons c rest =>
    rw [stop] at inner
    refine ⟨⟨false, digitsValue (whole ++ c :: rest), x - (c :: rest).length⟩, ?_, rfl, rfl⟩
    simp only [List.append_assoc, List.cons_append]
    have read := Decimal.read?_pointed digits nonempty inner fun c mem => (ends c mem).1
    simp only [List.cons_append] at read
    rw [read, exponent]
    rfl

end

theorem isIntegerLiteral_eq_false {t : Text} {c : Char} (mem : c ∈ t) (noDigit : isDecimal c = false)
    (noSign : c ≠ '-' ∧ c ≠ '+') : isIntegerLiteral t = false := by
  rw [Bool.eq_false_iff]
  intro literal
  rcases of_isIntegerLiteral literal c mem with digit | minus | plus
  · rw [noDigit] at digit
    cases digit
  · exact noSign.1 minus
  · exact noSign.2 plus

/-- There is a point unless the fraction is all zeros. -/
theorem pointed_cases (whole fraction : Text) :
    pointed whole fraction = whole ∧ (∀ c ∈ fraction, c = '0') ∨
      isIntegerLiteral (pointed whole fraction) = false := by
  rw [pointed]
  cases stop : dropLastZeros fraction with
  | nil =>
    refine Or.inl ⟨rfl, fun c mem => ?_⟩
    have zero := List.rdropWhile_eq_nil_iff.mp stop c mem
    exact beq_iff_eq.mp zero
  | cons c rest =>
    have point : '.' ∈ whole ++ '.' :: c :: rest := by simp
    exact Or.inr (isIntegerLiteral_eq_false point (by decide) (by decide))

/-! ## Significant digits -/

/-- What a text without a sign is read as: an integer, or a decimal literal. -/
def StandsFor (t : Text) (value : ℚ) : Prop :=
  (∃ n : ℕ, n < 10 ^ 15 ∧ (n : ℚ) = value ∧ t = naturalText n) ∨
    isIntegerLiteral t = false ∧
      ∃ d, Decimal.read? t = some d ∧ d.negative = false ∧ d.magnitude = value

section
variable {digits : ℕ} {k : ℤ} {value : ℚ} (h : IsSignificant digits k value)
include h

theorem standsFor_exponent :
    StandsFor (pointed ((naturalText digits).take 1) ((naturalText digits).drop 1) ++ exponentText k)
      value := by
  have plain : ∀ c ∈ naturalText digits, isDecimal c = true := fun c => isDecimal_of_mem_naturalText
  have nonempty : (naturalText digits).take 1 ≠ [] := by
    rw [Ne, List.take_eq_nil_iff]
    simp [naturalText_ne_nil]
  obtain ⟨rest, text, -⟩ := exponentText_eq k
  have letter : 'e' ∈ pointed ((naturalText digits).take 1) ((naturalText digits).drop 1) ++
      exponentText k := by simp [text]
  have ends : ∀ c ∈ (exponentText k).head?, isDecimal c = false ∧ c ≠ '.' := by
    rw [text]
    rintro - ⟨⟩
    decide
  obtain ⟨d, read, sign, magnitude⟩ := magnitude_pointed nonempty
    (fun c mem => plain c (List.mem_of_mem_take mem))
    (fun c mem => plain c (List.mem_of_mem_drop mem)) ends (readExponent?_exponentText k)
  refine Or.inr ⟨isIntegerLiteral_eq_false letter (by decide) (by decide), d, read, sign, ?_⟩
  rw [magnitude, List.take_append_drop, digitsValue_naturalText, List.length_drop, h.length,
    ← h.value_eq]
  rfl

/-- There are zeros between the point and the digits. -/
theorem standsFor_fraction (below : k < 0) :
    StandsFor (pointed ['0'] (List.replicate (k.natAbs - 1) '0' ++ naturalText digits)) value := by
  have plain : ∀ c ∈ List.replicate (k.natAbs - 1) '0' ++ naturalText digits,
      isDecimal c = true := by
    simp only [List.forall_mem_append]
    refine ⟨fun c mem => ?_, fun c => isDecimal_of_mem_naturalText⟩
    rw [(List.mem_replicate.mp mem).2]
    decide
  have literal : isIntegerLiteral (pointed ['0'] (List.replicate (k.natAbs - 1) '0' ++
      naturalText digits)) = false := by
    refine (pointed_cases _ _).resolve_left fun none => ?_
    obtain ⟨c, rest, text⟩ := List.exists_cons_of_ne_nil (naturalText_ne_nil digits)
    have first := head?_naturalText (Nat.lt_of_lt_of_le (by decide) h.least)
    rw [text] at first none
    exact first (congrArg some (none.2 c (by simp)))
  obtain ⟨d, read, sign, magnitude⟩ := @magnitude_pointed ['0'] _ [] (List.cons_ne_nil '0' [])
    (List.forall_mem_singleton.mpr (by decide)) plain (by simp) 0 rfl
  rw [List.append_nil] at read
  refine Or.inr ⟨literal, d, read, sign, ?_⟩
  have front : ['0'] ++ (List.replicate (k.natAbs - 1) '0' ++ naturalText digits) =
      List.replicate (k.natAbs - 1 + 1) '0' ++ naturalText digits := rfl
  rw [magnitude, front, digitsValue_append, digitsValue_zeros, zero_mul, zero_add,
    digitsValue_naturalText, List.length_append, List.length_replicate, h.length, ← h.value_eq]
  congr 2
  omega

/-- The point stands among the digits, or behind them and is not written. -/
theorem standsFor_pointed (above : 0 ≤ k) (within : k ≤ 14) :
    StandsFor (pointed ((naturalText digits).take (k.toNat + 1))
      ((naturalText digits).drop (k.toNat + 1))) value := by
  have plain : ∀ c ∈ naturalText digits, isDecimal c = true := fun c => isDecimal_of_mem_naturalText
  have rest : ((naturalText digits).drop (k.toNat + 1)).length = 14 - k.toNat := by
    rw [List.length_drop, h.length]
    omega
  have nonempty : (naturalText digits).take (k.toNat + 1) ≠ [] := by
    rw [Ne, List.take_eq_nil_iff]
    simp [naturalText_ne_nil]
  rcases pointed_cases ((naturalText digits).take (k.toNat + 1))
    ((naturalText digits).drop (k.toNat + 1)) with ⟨text, zeros⟩ | literal
  · have count : IsCount ((naturalText digits).take (k.toNat + 1)) := by
      refine ⟨nonempty, fun c mem => isDigit_of_mem_naturalText (List.mem_of_mem_take mem), ?_⟩
      rw [List.head?_take, if_neg (Nat.succ_ne_zero _)]
      exact head?_naturalText (Nat.lt_of_lt_of_le (by decide) h.least)
    obtain ⟨-, written⟩ := count.naturalText_digitsValue
    have split := digitsValue_append ((naturalText digits).take (k.toNat + 1))
      ((naturalText digits).drop (k.toNat + 1))
    rw [List.take_append_drop, digitsValue_naturalText, List.eq_replicate_of_mem zeros,
      digitsValue_zeros, List.length_replicate, rest, add_zero] at split
    have whole : (digits : ℚ) =
        digitsValue ((naturalText digits).take (k.toNat + 1)) * 10 ^ (14 - k.toNat) := by
      exact_mod_cast split
    refine Or.inl ⟨_, ?_, ?_, text.trans written.symm⟩
    · rw [← tenTo_eq, ← length_naturalText_le_iff (by decide), written, List.length_take]
      omega
    · rw [← h.value_eq, whole, mul_assoc, ten_pow_mul_zpow (14 - k.toNat) (l := 0) (by omega),
        zpow_zero, mul_one]
  · obtain ⟨d, read, sign, magnitude⟩ := @magnitude_pointed _ _ [] nonempty
      (fun c mem => plain c (List.mem_of_mem_take mem))
      (fun c mem => plain c (List.mem_of_mem_drop mem)) (by simp) 0 rfl
    rw [List.append_nil] at read
    refine Or.inr ⟨literal, d, read, sign, ?_⟩
    rw [magnitude, List.take_append_drop, digitsValue_naturalText, rest, ← h.value_eq]
    congr 2
    omega

/-- **The text of significant digits is read back as their value.** -/
theorem standsFor_digitsText : StandsFor (digitsText (naturalText digits) k) value := by
  have fifteen : (precision : ℤ) = 15 := rfl
  rw [digitsText]
  split
  · exact standsFor_exponent h
  · rename_i within
    simp only [Bool.or_eq_true, decide_eq_true_eq, fifteen, not_or] at within
    split
    · rename_i below
      exact standsFor_fraction h below
    · rename_i above
      exact standsFor_pointed h (by omega) (by omega)

end

/-- Long numbers are written with letters. -/
theorem IsWritten.isIntegerLiteral_eq_false {r : ℚ} {t : Text} (large : 10 ^ 15 ≤ r)
    (h : IsWritten false r t) :
    isIntegerLiteral t = false := by
  have positive : 0 < r := lt_of_lt_of_le (by positivity) large
  cases h with
  | zero nothing => exact absurd nothing positive.ne'
  | @finite digits k _ _ significant =>
    obtain ⟨digits', k', significant', reached⟩ := exists_isSignificant positive
    obtain ⟨rfl, rfl⟩ := significant.unique significant'
    have log : 15 ≤ Int.log 10 r := by
      apply (Int.zpow_le_iff_le_log (by decide) positive).mp
      rw [Nat.cast_ofNat, zpow_ofNat]
      exact large
    have place : (precision : ℤ) ≤ k := le_trans log reached
    obtain ⟨rest, text, -⟩ := exponentText_eq k
    have letter : 'e' ∈ signText false ++ digitsText (naturalText digits) k := by
      rw [digitsText, if_pos (by simp [place]), text]
      simp
    exact MacroShell.isIntegerLiteral_eq_false letter (by decide) (by decide)
  | infinity _ => decide

end MacroShell
