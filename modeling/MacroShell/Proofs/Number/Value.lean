import MacroShell.Number.Decimal
import MacroShell.Proofs.Number.Arithmetic

/-!
# The value of a decimal literal

A decimal literal is read as the number in floating point that is nearest to its value. Short ones
are read by one multiplication or division of two exact numbers, and all others in one step; either
way the number is rounded once.
-/

namespace MacroShell

open Float.Model Float.Model.UnpackedFloat

/-! ## Numbers that rounding keeps -/

/-- Short integers are kept. -/
theorem nearestFloat_natCast {n : ℕ} (h : n < 2 ^ 53) : nearestFloat n = n := by
  by_cases zero : n = 0
  · rw [zero, Nat.cast_zero, nearestFloat_zero]
  · have positive : (0 : ℚ) < n := by exact_mod_cast Nat.pos_of_ne_zero zero
    have log : Int.log 2 (n : ℚ) < 53 := by
      apply (Int.lt_zpow_iff_log_lt one_lt_two positive).mp
      exact_mod_cast h
    apply nearestFloat_multiple (n := n) (e := 0) (by simp)
    unfold unitExponent
    omega

/-- The place value of the last binary digit that is kept of an integer. -/
def lastPlace (n : ℤ) : ℕ := 2 ^ (n.natAbs.log2 - 52)

theorem lastPlace_pos (n : ℤ) : 0 < lastPlace n := Nat.pow_pos (by decide)

/-- Integers are rounded to their last place. -/
theorem nearestFloat_eq_roundQuotient (n : ℕ) :
    nearestFloat n = (roundQuotient n (lastPlace n) * lastPlace n : ℤ) := by
  by_cases short : n < 2 ^ 53
  · have log : n.log2 ≤ 52 := by
      by_cases zero : n = 0
      · subst zero
        decide
      · exact Nat.lt_succ_iff.mp ((Nat.log2_lt zero).mpr short)
    have one : lastPlace n = 1 := by
      rw [lastPlace, Int.natAbs_natCast, Nat.sub_eq_zero_of_le log, pow_zero]
    rw [nearestFloat_natCast short, (roundQuotient_mul_eq_iff (lastPlace_pos n)).mpr, Int.cast_natCast]
    rw [one]
    exact one_dvd _
  · have nonzero : n ≠ 0 := by omega
    have places : 53 ≤ n.log2 := (Nat.le_log2 nonzero).mpr (not_lt.mp short)
    have unit : unitExponent n = (n.log2 - 52 : ℕ) := by
      rw [unitExponent, Int.log_natCast, ← Nat.log2_eq_log_two]
      omega
    rw [nearestFloat, unit, zpow_natCast, roundTo, roundQuotient_eq _ (lastPlace_pos n), lastPlace,
      Int.natAbs_natCast]
    push_cast
    rfl

/-- A number stays above the powers of two that it is above. -/
theorem le_nearestFloat {q : ℚ} {k : ℤ} (least : -1074 ≤ k) (h : 2 ^ k ≤ q) :
    2 ^ k ≤ nearestFloat q := by
  have positive : 0 < q := lt_of_lt_of_le (zpow_pos two_pos k) h
  have log : k ≤ Int.log 2 q := (Int.zpow_le_iff_le_log one_lt_two positive).mp h
  have fine : unitExponent q ≤ Int.log 2 q := by
    unfold unitExponent
    omega
  obtain ⟨n, sum⟩ := Int.le.dest fine
  have multiple : (2 : ℚ) ^ Int.log 2 q = (2 ^ n : ℤ) * 2 ^ unitExponent q := by
    rw [Int.cast_pow, Int.cast_two, ← zpow_natCast, ← zpow_add₀ two_ne_zero, add_comm, sum]
  calc (2 : ℚ) ^ k ≤ 2 ^ Int.log 2 q := zpow_le_zpow_right₀ one_le_two log
    _ = roundTo (2 ^ unitExponent q) (2 ^ Int.log 2 q) :=
      (roundTo_multiple (unit_pos q) multiple).symm
    _ ≤ nearestFloat q := roundTo_le (unit_pos q) (Int.zpow_log_le_self one_lt_two positive)

theorem le_nearestFloat_natCast {n : ℕ} (large : 10 ^ 15 ≤ n) : (10 : ℚ) ^ 15 ≤ nearestFloat n := by
  by_cases short : n < 2 ^ 53
  · rw [nearestFloat_natCast short]
    exact_mod_cast large
  · have reached : (2 : ℚ) ^ (53 : ℤ) ≤ n := by
      rw [zpow_ofNat]
      exact_mod_cast not_lt.mp short
    exact le_trans (by norm_num) (le_nearestFloat (by decide) reached)

theorem half_of_least : (2 : ℚ) ^ (-1074 : ℤ) / 2 = 2 ^ (-1075 : ℤ) := by
  rw [div_eq_iff two_ne_zero, ← zpow_add_one₀ two_ne_zero]
  norm_num

/-- Below the numbers that have all their places the least number is the unit. -/
theorem nearestFloat_of_near {q : ℚ} (positive : 0 < q) (small : q < 2 ^ (-1022 : ℤ)) {n : ℤ}
    (near : |q - n * 2 ^ (-1074 : ℤ)| < 2 ^ (-1075 : ℤ)) :
    nearestFloat q = n * 2 ^ (-1074 : ℤ) := by
  have log : Int.log 2 q < -1022 := (Int.lt_zpow_iff_log_lt one_lt_two positive).mp small
  have unit : unitExponent q = -1074 := by
    unfold unitExponent
    omega
  rw [nearestFloat, unit]
  apply roundTo_eq_of_lt (zpow_pos two_pos _)
  rwa [half_of_least]

/-- A number that is less than half of the least one is lost. -/
theorem nearestFloat_tiny {q : ℚ} (positive : 0 < q) (h : q < 2 ^ (-1075 : ℤ)) :
    nearestFloat q = 0 := by
  have small : q < 2 ^ (-1022 : ℤ) := h.trans_le (zpow_le_zpow_right₀ one_le_two (by decide))
  have near : |q - (0 : ℤ) * 2 ^ (-1074 : ℤ)| < 2 ^ (-1075 : ℤ) := by
    rw [Int.cast_zero, zero_mul, sub_zero, abs_of_pos positive]
    exact h
  rw [nearestFloat_of_near positive small near, Int.cast_zero, zero_mul]

/-! ## Reading in two steps -/

theorem isFloat_natCast {n : ℕ} (h : n < 2 ^ 53) : IsFloat false n n.toUInt64.toFloat := by
  have same : n.toUInt64.toFloat =
      packed (UnpackedFloat.normalize Format.binary64 (n.toUInt64.toNat : ℤ) 0 .positive) := rfl
  have size : UInt64.size = 2 ^ 64 := rfl
  have value : n.toUInt64.toNat = n := UInt64.toNat_ofNat_of_lt' (by omega)
  rw [same, value]
  by_cases zero : n = 0
  · subst zero
    exact (Denotes.zero rfl).isFloat_packed
  · have positive : (0 : ℚ) < n := by exact_mod_cast Nat.pos_of_ne_zero zero
    have order : compare (n : ℤ) 0 = .gt := Int.compare_eq_gt.mpr (by omega)
    rw [UnpackedFloat.normalize, order]
    simp only [Int.toNat_natCast]
    have rounded := @isRounded_round (signOf false) n 0 (Nat.pos_of_ne_zero zero)
    rw [zpow_zero, mul_one] at rounded
    rw [← nearestFloat_natCast h]
    exact rounded.isFloat_packed

def isTenPower (e : ℕ) : UnpackedFloat → Bool
  | .finite .positive m k _ => m < 2 ^ 53 && 2 ^ 52 ≤ m && -1074 ≤ k && k ≤ 971 &&
      m * 2 ^ k.toNat == 10 ^ e * 2 ^ (-k).toNat
  | _ => false

/-- The powers of ten that are exact are listed. -/
theorem isTenPower_listed : ∀ e : Fin Float.exactlyRepresentablePowersOfTen.size,
    isTenPower e Float.exactlyRepresentablePowersOfTen[e].toModel.unpack = true := by
  decide

theorem isFloat_power {e : ℕ} (h : e < Float.exactlyRepresentablePowersOfTen.size) :
    IsFloat false (10 ^ e) Float.exactlyRepresentablePowersOfTen[e] := by
  have listed := isTenPower_listed ⟨e, h⟩
  simp only [Fin.getElem_fin] at listed
  unfold IsFloat
  generalize Float.exactlyRepresentablePowersOfTen[e].toModel.unpack = u at *
  unfold isTenPower at listed
  split at listed
  · rename_i m k pos
    simp only [Bool.and_eq_true, decide_eq_true_eq, beq_iff_eq] at listed
    obtain ⟨⟨⟨⟨below, places⟩, least⟩, top⟩, value⟩ := listed
    refine .finite pos ⟨below, least, fun _ => places⟩ top ?_
    have exponent : (k.toNat : ℤ) = k + (-k).toNat := by omega
    have scaled : (m : ℚ) * 2 ^ k.toNat = 10 ^ e * 2 ^ (-k).toNat := by exact_mod_cast value
    rw [← zpow_natCast, exponent, zpow_add₀ two_ne_zero, zpow_natCast, ← mul_assoc] at scaled
    exact mul_right_cancel₀ (by positivity) scaled
  · cases listed

/-! ## Reading in one step -/

/-- Past the exponents that are tried, a literal is less than half of the least number. -/
theorem tiny_of_exponent {m n : ℕ} (h : 2048 + m.log2 < n) :
    (m : ℚ) * 10 ^ (-(n : ℤ)) < 2 ^ (-1075 : ℤ) := by
  have below : (m : ℚ) < 2 ^ ((m.log2 : ℤ) + 1) := by
    have less : m < 2 ^ (m.log2 + 1) := Nat.lt_log2_self
    exact_mod_cast less
  have power : (10 : ℚ) ^ (-(n : ℤ)) ≤ 2 ^ (-(n : ℤ)) := by
    rw [zpow_neg, zpow_neg, zpow_natCast, zpow_natCast]
    gcongr
    norm_num
  calc (m : ℚ) * 10 ^ (-(n : ℤ)) < 2 ^ ((m.log2 : ℤ) + 1) * 10 ^ (-(n : ℤ)) := by gcongr
    _ ≤ 2 ^ ((m.log2 : ℤ) + 1) * 2 ^ (-(n : ℤ)) := by gcongr
    _ = 2 ^ ((m.log2 : ℤ) + 1 + -(n : ℤ)) := (zpow_add₀ two_ne_zero _ _).symm
    _ ≤ 2 ^ (-1075 : ℤ) := zpow_le_zpow_right₀ one_le_two (by omega)

theorem huge_of_exponent {m : ℕ} {e : ℤ} (filled : 0 < m) (h : 1024 ≤ e) :
    (2 : ℚ) ^ (1024 : ℤ) ≤ m * 10 ^ e := by
  have least : (1 : ℚ) ≤ m := by exact_mod_cast filled
  calc (2 : ℚ) ^ (1024 : ℤ) ≤ 10 ^ (1024 : ℤ) :=
        zpow_le_zpow_left₀ (by decide) zero_le_two (by norm_num)
    _ ≤ 10 ^ e := zpow_le_zpow_right₀ (by norm_num) h
    _ ≤ m * 10 ^ e := le_mul_of_one_le_left (by positivity) least

/-- A literal with a whole power of ten as the product that is formed for it. -/
theorem shifted_mul_tenPower (m n : ℕ) :
    (m <<< 53 : ℕ) * (2 : ℚ) ^ (-53 : ℤ) * ((10 ^ n : ℕ) * 2 ^ (0 : ℤ)) = m * 10 ^ (n : ℤ) := by
  have cancel : (2 : ℚ) ^ 53 * 2 ^ (-53 : ℤ) = 1 := by
    rw [zpow_neg]
    exact mul_inv_cancel₀ (by positivity)
  rw [Nat.shiftLeft_eq, zpow_zero, mul_one, zpow_natCast, Nat.cast_mul, Nat.cast_pow,
    Nat.cast_two, mul_assoc (m : ℚ), cancel, mul_one, Nat.cast_pow, Nat.cast_ofNat]

/-- A literal with a fractional power of ten as the quotient that is formed for it. -/
theorem div_tenPower (m n : ℕ) :
    (m : ℚ) * 2 ^ (0 : ℤ) / ((10 ^ n : ℕ) * 2 ^ (0 : ℤ)) = m * 10 ^ (-(n : ℤ)) := by
  rw [zpow_zero, mul_one, mul_one, zpow_neg, zpow_natCast, div_eq_mul_inv]
  push_cast
  rfl

theorem log_mul_tenPower_nonneg {m : ℕ} (filled : 0 < m) (n : ℕ) :
    0 ≤ Int.log 2 ((m : ℚ) * 10 ^ (n : ℤ)) := by
  apply (Int.zpow_le_iff_le_log one_lt_two (by positivity)).mp
  rw [zpow_zero, zpow_natCast]
  exact_mod_cast Nat.one_le_iff_ne_zero.mpr (by positivity)

theorem isFloat_exact (m : ℕ) (e : ℤ) :
    IsFloat false (nearestFloat (m * 10 ^ e))
      (packed (UnpackedFloat.ofScientific Format.binary64 m e)) := by
  have exponents : (2 : ℤ) ^ Format.binary64.exponentBits = 2048 := by decide
  unfold UnpackedFloat.ofScientific
  rw [exponents]
  split
  · rename_i zero
    subst zero
    rw [Nat.cast_zero, zero_mul]
    exact IsRounded.isFloat_packed (Or.inl ⟨nearestFloat_zero, rfl⟩)
  rename_i nonzero
  have filled : 0 < m := Nat.pos_of_ne_zero nonzero
  split
  · rename_i large
    have infinite := le_nearestFloat (by decide) (huge_of_exponent filled (by omega : 1024 ≤ e))
    exact (Denotes.infinity (by exact_mod_cast infinite)).isFloat_packed
  split
  · rename_i small
    obtain ⟨n, rfl⟩ : ∃ n : ℕ, e = -(n : ℤ) := ⟨(-e).toNat, by omega⟩
    apply IsRounded.isFloat_packed
    exact Or.inl ⟨nearestFloat_tiny (by positivity) (tiny_of_exponent (by omega)), rfl⟩
  split
  · rename_i whole
    obtain ⟨n, rfl⟩ := Int.eq_ofNat_of_zero_le whole
    apply IsRounded.isFloat_packed
    have shifted : 0 < m <<< 53 := by
      rw [Nat.shiftLeft_eq]
      positivity
    have log := log_mul_tenPower_nonneg filled n
    rw [← shifted_mul_tenPower]
    apply isRounded_product shifted (by positivity) .positive
    rw [shifted_mul_tenPower]
    unfold unitExponent
    omega
  · rename_i fraction
    obtain ⟨n, rfl⟩ : ∃ n : ℕ, e = -(n : ℤ) := ⟨(-e).toNat, by omega⟩
    have exponent : (- -(n : ℤ)).toNat = n := by omega
    apply IsRounded.isFloat_packed
    rw [← div_tenPower]
    simp only [exponent]
    exact isRounded_quotient filled (by positivity) .positive

/-! ## Literals -/

/-- **A number in scientific form is read as the nearest one.** -/
theorem isFloat_ofScientific (m : ℕ) (negative : Bool) (n : ℕ) :
    IsFloat false (nearestFloat (m * 10 ^ (if negative then -(n : ℤ) else n)))
      (Float.ofScientific m negative n) := by
  by_cases short : m < 2 ^ 53 ∧ n ≤ 22
  · rw [Float.ofScientific, dif_pos short]
    have listed : n < Float.exactlyRepresentablePowersOfTen.size :=
      Nat.lt_succ_of_le short.2
    have front := isFloat_natCast short.1
    have power := isFloat_power listed
    have bounded : (m : ℚ) < 2 ^ 1024 :=
      calc (m : ℚ) < 2 ^ 53 := by exact_mod_cast short.1
        _ ≤ 2 ^ 1024 := pow_le_pow_right₀ one_le_two (by omega)
    have powerBounded : (10 : ℚ) ^ n < 2 ^ 1024 :=
      calc (10 : ℚ) ^ n ≤ 10 ^ 22 := pow_le_pow_right₀ (by norm_num) short.2
        _ < 2 ^ 74 := by norm_num
        _ ≤ 2 ^ 1024 := pow_le_pow_right₀ one_le_two (by omega)
    cases negative with
    | true =>
      have quotient := isFloat_div front power bounded powerBounded (by positivity)
      simp only [if_true, zpow_neg, zpow_natCast, ← div_eq_mul_inv]
      exact quotient
    | false =>
      have product := isFloat_mul front power bounded powerBounded
      simp only [Bool.false_eq_true, if_false, zpow_natCast]
      exact product
  · rw [Float.ofScientific, dif_neg short]
    cases negative with
    | true =>
      have same : Int.negOfNat n = -(n : ℤ) := by
        cases n <;> rfl
      simp only [if_true, same]
      exact isFloat_exact m (-n)
    | false => exact isFloat_exact m n

namespace Decimal

def magnitude (d : Decimal) : ℚ := d.coefficient * 10 ^ d.exponent

theorem magnitude_integer (negative : Bool) (n : ℕ) : magnitude ⟨negative, n, 0⟩ = n := by
  rw [magnitude, zpow_zero, mul_one]

/-- **A literal is read as the nearest number**, with its sign. -/
theorem isFloat_toFloat (d : Decimal) : IsFloat d.negative (nearestFloat d.magnitude) d.toFloat := by
  have read := isFloat_ofScientific d.coefficient (d.exponent < 0) d.exponent.natAbs
  have exponent : (if d.exponent < 0 then -(d.exponent.natAbs : ℤ) else d.exponent.natAbs) =
      d.exponent := by
    split <;> omega
  simp only [decide_eq_true_eq, exponent] at read
  unfold toFloat magnitude
  cases negative : d.negative with
  | true => simpa using IsFloat.neg read
  | false => simpa using read

end Decimal

end MacroShell
