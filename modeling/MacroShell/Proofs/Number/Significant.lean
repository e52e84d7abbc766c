import MacroShell.Number.Format
import MacroShell.Proofs.Number.Integer
import MacroShell.Proofs.Number.Packing

/-!
# Significant digits

A magnitude is written with the 15 significant digits nearest to it. They start at the place of the
first digit, which is found by the length of the whole part after a shift.
-/

namespace MacroShell

/-! ## Fifteen digits -/

def digitExponent (q : ℚ) : ℤ := Int.log 10 q - 14

/-- The magnitude of 15 significant digits nearest a magnitude. -/
def nearestDecimal (q : ℚ) : ℚ := roundTo (10 ^ digitExponent q) q

theorem tenTo_eq (k : ℕ) : tenTo k = 10 ^ k := rfl

/-- Fifteen significant digits, the exponent of the first of them, and their value. -/
structure IsSignificant (digits : ℕ) (k : ℤ) (value : ℚ) : Prop where
  least : 10 ^ 14 ≤ digits
  most : digits < 10 ^ 15
  value_eq : (digits : ℚ) * 10 ^ (k - 14) = value

theorem ten_zpow_pos (k : ℤ) : (0 : ℚ) < 10 ^ k := zpow_pos (by norm_num) k

theorem ten_pow_mul_zpow (j : ℕ) {k l : ℤ} (h : k + j = l) : (10 : ℚ) ^ j * 10 ^ k = 10 ^ l := by
  rw [← zpow_natCast, ← zpow_add₀ (by norm_num), add_comm, h]

namespace IsSignificant

variable {digits digits' : ℕ} {k k' : ℤ} {value : ℚ}

theorem log_eq (h : IsSignificant digits k value) : Int.log 10 value = k := by
  obtain ⟨least, most, rfl⟩ := h
  have unit := ten_zpow_pos (k - 14)
  have low : (10 : ℚ) ^ 14 ≤ digits := by exact_mod_cast least
  have high : (digits : ℚ) < 10 ^ 15 := by exact_mod_cast most
  apply MacroShell.log_eq (by decide)
  · rw [Nat.cast_ofNat, ← ten_pow_mul_zpow 14 (sub_add_cancel k 14)]
    exact mul_le_mul_of_nonneg_right low unit.le
  · rw [Nat.cast_ofNat, ← ten_pow_mul_zpow 15 (show k - 14 + 15 = k + 1 by omega)]
    exact mul_lt_mul_of_pos_right high unit

theorem unique (h : IsSignificant digits k value) (h' : IsSignificant digits' k' value) :
    digits = digits' ∧ k = k' := by
  have same : k = k' := by rw [← h.log_eq, ← h'.log_eq]
  subst same
  refine ⟨?_, rfl⟩
  have equal := h.value_eq.trans h'.value_eq.symm
  exact_mod_cast mul_right_cancel₀ (ten_zpow_pos _).ne' equal

theorem pos (h : IsSignificant digits k value) : 0 < value := by
  have filled : (0 : ℚ) < digits := by exact_mod_cast Nat.lt_of_lt_of_le (by decide) h.least
  rw [← h.value_eq]
  exact mul_pos filled (ten_zpow_pos _)

end IsSignificant

/-- There are 15 digits before the last place of a magnitude. -/
theorem places_of_digits {q : ℚ} (positive : 0 < q) :
    10 ^ 14 ≤ q / 10 ^ digitExponent q ∧ q / 10 ^ digitExponent q < 10 ^ 15 := by
  have unit := ten_zpow_pos (digitExponent q)
  have lower : ((10 : ℕ) : ℚ) ^ Int.log 10 q ≤ q := Int.zpow_log_le_self (by decide) positive
  have upper : q < ((10 : ℕ) : ℚ) ^ (Int.log 10 q + 1) := Int.lt_zpow_succ_log_self (by decide) q
  rw [Nat.cast_ofNat] at lower upper
  have last : digitExponent q + 14 = Int.log 10 q := sub_add_cancel _ _
  rw [le_div_iff₀ unit, div_lt_iff₀ unit, ten_pow_mul_zpow 14 last,
    ten_pow_mul_zpow 15 (show digitExponent q + 15 = Int.log 10 q + 1 by omega)]
  exact ⟨lower, upper⟩

theorem nearest_digits {q : ℚ} (positive : 0 < q) {n : ℤ}
    (nearest : IsNearest (q / 10 ^ digitExponent q) n) :
    10 ^ 14 ≤ n ∧ n ≤ 10 ^ 15 ∧ (n : ℚ) * 10 ^ digitExponent q = nearestDecimal q := by
  obtain ⟨low, high⟩ := places_of_digits positive
  refine ⟨?_, ?_, ?_⟩
  · exact (IsNearest.intCast (10 ^ 14)).le nearest (by exact_mod_cast low)
  · exact nearest.le (.intCast (10 ^ 15)) (by exact_mod_cast high.le)
  · rw [nearestDecimal, roundTo, roundEven_eq nearest]

/-- Rounding keeps 15 digits, or makes a row of nines into the next power of ten. -/
theorem isSignificant_of_nearest {q : ℚ} (positive : 0 < q) {n : ℕ}
    (nearest : IsNearest (q / 10 ^ digitExponent q) n) :
    (n = 10 ^ 15 ∧ IsSignificant (10 ^ 14) (Int.log 10 q + 1) (nearestDecimal q)) ∨
      (n ≠ 10 ^ 15 ∧ IsSignificant n (Int.log 10 q) (nearestDecimal q)) := by
  obtain ⟨least, most, value⟩ := nearest_digits positive nearest
  rw [Int.cast_natCast] at value
  by_cases nines : n = 10 ^ 15
  · refine Or.inl ⟨nines, le_refl _, by decide, ?_⟩
    rw [← value, nines, digitExponent, Nat.cast_pow, Nat.cast_pow, Nat.cast_ofNat,
      ten_pow_mul_zpow 14 (l := Int.log 10 q + 1) (by omega),
      ten_pow_mul_zpow 15 (l := Int.log 10 q + 1) (by omega)]
  · exact Or.inr ⟨nines, by omega, by omega, value⟩

/-- Every magnitude has significant digits. -/
theorem exists_isSignificant {q : ℚ} (positive : 0 < q) :
    ∃ digits k, IsSignificant digits k (nearestDecimal q) ∧ Int.log 10 q ≤ k := by
  have nearest := isNearest_roundEven (q / 10 ^ digitExponent q)
  have least := (nearest_digits positive nearest).1
  obtain ⟨n, round⟩ := Int.eq_ofNat_of_zero_le (show 0 ≤ roundEven (q / 10 ^ digitExponent q) by omega)
  rw [round] at nearest
  rcases isSignificant_of_nearest positive nearest with ⟨-, significant⟩ | ⟨-, significant⟩
  · exact ⟨_, _, significant, by omega⟩
  · exact ⟨_, _, significant, le_refl _⟩

/-! ## The digits of a quotient -/

theorem naturalText_bounds {n : ℕ} (h : 0 < n) :
    10 ^ ((naturalText n).length - 1) ≤ n ∧ n < 10 ^ (naturalText n).length := by
  have filled := List.length_pos_iff.mpr (naturalText_ne_nil n)
  refine ⟨?_, (length_naturalText_le_iff filled).mp (le_refl _)⟩
  by_cases single : (naturalText n).length = 1
  · rw [single]
    exact h
  · have longer : ¬ (naturalText n).length ≤ (naturalText n).length - 1 := by omega
    rw [length_naturalText_le_iff (by omega)] at longer
    exact not_lt.mp longer

section
variable {num den : ℕ} (positive : 0 < den) (covered : (10 : ℚ) ^ (-400 : ℤ) ≤ num / den)
include positive covered

/-- The first digit of a quotient is found from the length of its whole part, far enough to the
right. -/
theorem decimalExponent_eq : decimalExponent num den = Int.log 10 ((num : ℚ) / den) := by
  have denom : (0 : ℚ) < den := by exact_mod_cast positive
  have shifted : (10 : ℚ) ^ 400 * 10 ^ (-400 : ℤ) = 1 :=
    ten_pow_mul_zpow 400 (l := 0) (by decide)
  have reached : den ≤ num * 10 ^ 400 := by
    rw [le_div_iff₀ denom] at covered
    have scaled := mul_le_mul_of_nonneg_left covered (pow_nonneg (by norm_num : (0 : ℚ) ≤ 10) 400)
    rw [← mul_assoc, shifted, one_mul, mul_comm] at scaled
    exact_mod_cast scaled
  obtain ⟨least, most⟩ := naturalText_bounds (Nat.div_pos reached positive)
  have filled := List.length_pos_iff.mpr (naturalText_ne_nil (num * 10 ^ 400 / den))
  rw [decimalExponent, tenTo_eq]
  generalize (naturalText (num * 10 ^ 400 / den)).length = L at *
  have low : 10 ^ (L - 1) * den ≤ num * 10 ^ 400 := (Nat.le_div_iff_mul_le positive).mp least
  have high : num * 10 ^ 400 < 10 ^ L * den := (Nat.div_lt_iff_lt_mul positive).mp most
  have low' : (10 : ℚ) ^ (L - 1) * den ≤ num * 10 ^ 400 := by exact_mod_cast low
  have high' : (num : ℚ) * 10 ^ 400 < 10 ^ L * den := by exact_mod_cast high
  have unit := ten_zpow_pos (-400)
  symm
  apply log_eq (by decide)
  · rw [Nat.cast_ofNat, le_div_iff₀ denom,
      ← ten_pow_mul_zpow (L - 1) (show -400 + ((L - 1 : ℕ) : ℤ) = (L : ℤ) - 401 by omega)]
    calc (10 : ℚ) ^ (L - 1) * 10 ^ (-400 : ℤ) * den = 10 ^ (L - 1) * den * 10 ^ (-400 : ℤ) := by ring
      _ ≤ num * 10 ^ 400 * 10 ^ (-400 : ℤ) := mul_le_mul_of_nonneg_right low' unit.le
      _ = num := by rw [mul_assoc, shifted, mul_one]
  · rw [Nat.cast_ofNat, div_lt_iff₀ denom,
      ← ten_pow_mul_zpow L (show -400 + (L : ℤ) = (L : ℤ) - 401 + 1 by omega)]
    calc (num : ℚ) = num * 10 ^ 400 * 10 ^ (-400 : ℤ) := by rw [mul_assoc, shifted, mul_one]
      _ < 10 ^ L * den * 10 ^ (-400 : ℤ) := mul_lt_mul_of_pos_right high' unit
      _ = 10 ^ L * 10 ^ (-400 : ℤ) * den := by ring

theorem isNearest_digits :
    IsNearest ((num : ℚ) / den / 10 ^ digitExponent (num / den))
      (roundQuotient (num * tenTo ((precision : ℤ) - 1 - decimalExponent num den).toNat)
        (den * tenTo (-((precision : ℤ) - 1 - decimalExponent num den)).toNat)) := by
  have ten : (10 : ℚ) ≠ 0 := by norm_num
  have exponent : digitExponent ((num : ℚ) / den) = -((precision : ℤ) - 1 - decimalExponent num den) := by
    rw [digitExponent, decimalExponent_eq positive covered]
    have fifteen : (precision : ℤ) = 15 := rfl
    omega
  rw [exponent]
  generalize (precision : ℤ) - 1 - decimalExponent num den = shift
  have split : (10 : ℚ) ^ (-shift) = 10 ^ (-shift).toNat / 10 ^ shift.toNat := by
    rw [← zpow_natCast, ← zpow_natCast, ← zpow_sub₀ ten]
    congr 1
    omega
  have filled : 0 < den * 10 ^ (-shift).toNat := by positivity
  have nearest := isNearest_roundQuotient (num * 10 ^ shift.toNat) filled
  have quotient : (num : ℚ) / den / 10 ^ (-shift) =
      ((num * 10 ^ shift.toNat : ℤ) : ℚ) / (den * 10 ^ (-shift).toNat : ℕ) := by
    rw [split]
    push_cast
    field_simp
  rw [quotient]
  exact nearest

/-- **The digits of a quotient are its significant digits.** -/
theorem exists_significantDigits :
    ∃ digits k, significantDigits num den = (naturalText digits, k) ∧
      IsSignificant digits k (nearestDecimal (num / den)) := by
  have denom : (0 : ℚ) < den := by exact_mod_cast positive
  have quotient : (0 : ℚ) < num / den := lt_of_lt_of_le (ten_zpow_pos _) covered
  have first := decimalExponent_eq positive covered
  have nearest := isNearest_digits positive covered
  have full : ((tenTo precision : ℕ) : ℤ) = 10 ^ 15 := by
    rw [tenTo_eq]
    norm_num [precision]
  simp only [significantDigits, full]
  generalize roundQuotient (num * tenTo ((precision : ℤ) - 1 - decimalExponent num den).toNat)
    (den * tenTo (-((precision : ℤ) - 1 - decimalExponent num den)).toNat) = n at *
  have least := (nearest_digits quotient nearest).1
  obtain ⟨digits, rfl⟩ := Int.eq_ofNat_of_zero_le (by omega : 0 ≤ n)
  rw [first]
  rcases isSignificant_of_nearest quotient nearest with ⟨nines, significant⟩ | ⟨other, significant⟩
  · have all : (digits : ℤ) = 10 ^ 15 := by exact_mod_cast nines
    rw [if_pos all, all]
    exact ⟨10 ^ 14, _, rfl, significant⟩
  · have rest : (digits : ℤ) ≠ 10 ^ 15 := by exact_mod_cast other
    rw [if_neg rest]
    exact ⟨_, _, rfl, significant⟩

end

end MacroShell
