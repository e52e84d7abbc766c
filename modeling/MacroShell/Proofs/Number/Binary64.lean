import Mathlib
import MacroShell.Number.Dyadic
import MacroShell.Proofs.Number.Nearest

/-!
# Rounding to binary64

A binary64 number has at most 53 binary places, and none after the one of `2 ^ -1074`. Rounding
works on a mantissa that is cut off at the point and remembers in two bits what was cut off.
-/

namespace MacroShell

open Float.Model Float.Model.UnpackedFloat

/-! ## The nearest number -/

/-- The exponent of the last place of the binary64 numbers around a magnitude. -/
def unitExponent (q : ℚ) : ℤ := max (Int.log 2 q - 52) (-1074)

/-- The binary64 number nearest a magnitude, if there were no largest one. -/
def nearestFloat (q : ℚ) : ℚ := roundTo (2 ^ unitExponent q) q

theorem log_eq {b : ℕ} (base : 1 < b) {q : ℚ} {k : ℤ} (least : (b : ℚ) ^ k ≤ q)
    (most : q < (b : ℚ) ^ (k + 1)) : Int.log b q = k := by
  have positive : 0 < q := lt_of_lt_of_le (zpow_pos (by exact_mod_cast (by omega : 0 < b)) k) least
  apply le_antisymm
  · exact Int.lt_add_one_iff.mp ((Int.lt_zpow_iff_log_lt base positive).mp most)
  · exact (Int.zpow_le_iff_le_log base positive).mp least

/-! ## Extended mantissas -/

/-- An extended mantissa holds a number cut off at the point: the two bits tell whether a half was
cut off and whether anything else was. -/
structure Represents (em : ExtendedMantissa) (x : ℚ) : Prop where
  least : (em.mantissa : ℚ) ≤ x
  most : x < em.mantissa + 1
  roundBit : em.roundBit = true ↔ (em.mantissa : ℚ) + 1 / 2 ≤ x
  stickyBit : em.stickyBit = true ↔ x ≠ em.mantissa ∧ x ≠ em.mantissa + 1 / 2

namespace Represents

variable {em : ExtendedMantissa} {x : ℚ}

theorem either_iff (h : Represents em x) :
    (em.roundBit || em.stickyBit) = true ↔ x ≠ em.mantissa := by
  rw [Bool.or_eq_true, h.roundBit, h.stickyBit]
  constructor
  · rintro (reached | ⟨other, -⟩)
    · intro same
      linarith
    · exact other
  · intro other
    by_cases half : x = em.mantissa + 1 / 2
    · exact Or.inl half.ge
    · exact Or.inr ⟨other, half⟩

theorem shiftRightOne (h : Represents em x) : Represents em.shiftRightOne (x / 2) := by
  obtain ⟨m, round, sticky⟩ := em
  have either := h.either_iff
  obtain ⟨least, most, -, -⟩ := h
  simp only [ExtendedMantissa.shiftRightOne] at *
  have split : (m : ℚ) = 2 * (m / 2 : ℕ) + (m % 2 : ℕ) := by exact_mod_cast (Nat.div_add_mod m 2).symm
  rcases Nat.mod_two_eq_zero_or_one m with even | odd
  · rw [even] at split
    push_cast at split
    refine ⟨by simp only; linarith, by simp only; linarith, ?_, ?_⟩
    · simp only [even]
      constructor
      · intro h
        cases h
      · intro h
        linarith
    · simp only [either]
      constructor
      · intro other
        exact ⟨fun same => other (by linarith), fun same => by linarith⟩
      · rintro ⟨other, -⟩ same
        exact other (by linarith)
  · rw [odd] at split
    push_cast at split
    refine ⟨by simp only; linarith, by simp only; linarith, ?_, ?_⟩
    · simp only [odd]
      constructor
      · intro h
        linarith
      · intro h
        rfl
    · simp only [either]
      constructor
      · intro other
        exact ⟨fun same => by linarith, fun same => other (by linarith)⟩
      · rintro ⟨-, other⟩ same
        exact other (by linarith)

theorem shiftRight (h : Represents em x) (n : ℕ) : Represents (em >>> n) (x / 2 ^ n) := by
  induction n with
  | zero =>
    rw [pow_zero, div_one]
    exact h
  | succ n ih =>
    rw [pow_succ, ← div_div]
    exact ih.shiftRightOne

theorem isNearest (h : Represents em x) : IsNearest x em.roundedMantissa := by
  obtain ⟨m, round, sticky⟩ := em
  obtain ⟨least, most, half, rest⟩ := h
  simp only at least most half rest
  cases round with
  | false =>
    have below : x < m + 1 / 2 := not_le.mp fun reached => by cases half.mpr reached
    cases sticky with
    | false =>
      have whole : x = m := by
        by_contra other
        cases rest.mpr ⟨other, below.ne⟩
      rw [whole]
      exact .intCast m
    | true =>
      change IsNearest x (m : ℕ)
      apply IsNearest.of_lt
      rw [abs_lt, Int.cast_natCast]
      constructor <;> linarith
  | true =>
    have above := half.mp rfl
    cases sticky with
    | false =>
      have middle : x = m + 1 / 2 := by
        by_contra other
        have fraction : x ≠ m := fun whole => by linarith
        cases rest.mpr ⟨fraction, other⟩
      rw [middle]
      exact .middle m
    | true =>
      have past : (m : ℚ) + 1 / 2 < x := lt_of_le_of_ne above (rest.mp rfl).2.symm
      change IsNearest x (m + 1 : ℕ)
      apply IsNearest.of_lt
      rw [abs_lt, Int.cast_natCast, Nat.cast_add, Nat.cast_one]
      constructor <;> linarith

section
variable (m : ℕ) {f : ℚ}

theorem exact : Represents ⟨m, false, false⟩ m where
  least := le_refl _
  most := lt_add_one _
  roundBit := by simp
  stickyBit := by simp

theorem below (some : 0 < f) (less : f < 1 / 2) : Represents ⟨m, false, true⟩ (m + f) where
  least := by simp only; linarith
  most := by simp only; linarith
  roundBit := by simp only [Bool.false_eq_true, false_iff, not_le]; linarith
  stickyBit := by simp only [true_iff]; constructor <;> intro same <;> linarith

theorem half : Represents ⟨m, true, false⟩ (m + 1 / 2) where
  least := by simp only; linarith
  most := by simp only; linarith
  roundBit := by simp
  stickyBit := by simp

theorem above (more : 1 / 2 < f) (less : f < 1) : Represents ⟨m, true, true⟩ (m + f) where
  least := by simp only; linarith
  most := by simp only; linarith
  roundBit := by simp only [true_iff]; linarith
  stickyBit := by simp only [true_iff]; constructor <;> intro same <;> linarith

end

/-- A quotient cut off at the point, with its remainder. -/
theorem quotient (m : ℕ) {n : ℕ} (h : 0 < n) :
    Represents (.ofMantissaAndAccuracy (m / n) (accuracyOfFraction (m % n) n)) (m / n) := by
  have positive : (0 : ℚ) < n := by exact_mod_cast h
  have split : (m : ℚ) / n = (m / n : ℕ) + ((m % n : ℕ) : ℚ) / n := by
    rw [div_eq_iff positive.ne', add_mul, div_mul_cancel₀ _ positive.ne']
    exact_mod_cast (Nat.div_add_mod' m n).symm
  rw [split]
  by_cases whole : m % n = 0
  · rw [whole, accuracyOfFraction, if_pos rfl, Nat.cast_zero, zero_div, add_zero]
    exact exact _
  · rw [accuracyOfFraction, if_neg whole]
    cases order : compare (2 * (m % n)) n with
    | lt =>
      have less := Nat.compare_eq_lt.mp order
      apply below
      · exact div_pos (by exact_mod_cast Nat.pos_of_ne_zero whole) positive
      · rw [div_lt_div_iff₀ positive two_pos]
        exact_mod_cast (by omega : m % n * 2 < 1 * n)
    | eq =>
      have same := Nat.compare_eq_eq.mp order
      have middle : ((m % n : ℕ) : ℚ) / n = 1 / 2 := by
        rw [div_eq_div_iff positive.ne' two_ne_zero]
        exact_mod_cast (by omega : m % n * 2 = 1 * n)
      rw [middle]
      exact half _
    | gt =>
      have more := Nat.compare_eq_gt.mp order
      apply above
      · rw [div_lt_div_iff₀ two_pos positive]
        exact_mod_cast (by omega : 1 * n < m % n * 2)
      · rw [div_lt_one positive]
        exact_mod_cast Nat.mod_lt m h

end Represents

/-! ## Rounding an unpacked number -/

/-- The form in which binary64 holds a positive magnitude: as many places as there are, unless the
exponent is the least one. -/
structure IsCanonical (m : ℕ) (e : ℤ) : Prop where
  below : m < 2 ^ 53
  least : -1074 ≤ e
  full : -1074 < e → 2 ^ 52 ≤ m

theorem targetExponent_eq (m : ℕ) (e : ℤ) :
    Format.binary64.targetExponent (totalExponent m e) = max (m.log2 + e - 52) (-1074) := by
  have format : Format.binary64.mantissaBits = 53 ∧ Format.binary64.minExponent = -1074 := by decide
  rw [Format.targetExponent, totalExponent, format.1, format.2]
  congr 1
  push_cast
  ring

section
variable {m : ℕ} {e : ℤ} {q : ℚ} (positive : 0 < q) (least : (m : ℚ) ≤ q / 2 ^ e)
  (most : q / 2 ^ e < m + 1) (fine : e ≤ unitExponent q)
include positive least most fine

/-- What a cut-off mantissa tells of the exponent of the last place. -/
theorem targetExponent_of_bounds :
    Format.binary64.targetExponent (totalExponent m e) = unitExponent q := by
  have unit : (0 : ℚ) < 2 ^ e := zpow_pos two_pos e
  rw [le_div_iff₀ unit] at least
  rw [div_lt_iff₀ unit] at most
  rw [targetExponent_eq]
  by_cases zero : m = 0
  · subst zero
    rw [Nat.cast_zero, zero_add, one_mul] at most
    have small : Int.log 2 q < e := (Int.lt_zpow_iff_log_lt one_lt_two positive).mp most
    unfold unitExponent at *
    have log : (0 : ℕ).log2 = 0 := by decide
    rw [log]
    omega
  · have low : 2 ^ m.log2 ≤ m := Nat.log2_self_le zero
    have high : m + 1 ≤ 2 ^ (m.log2 + 1) := Nat.lt_log2_self
    have log : Int.log 2 q = m.log2 + e := by
      apply log_eq one_lt_two
      · rw [Nat.cast_two, zpow_add₀ two_ne_zero, zpow_natCast]
        refine le_trans (mul_le_mul_of_nonneg_right ?_ unit.le) least
        exact_mod_cast low
      · refine lt_of_lt_of_le most ?_
        rw [Nat.cast_two, add_right_comm, zpow_add₀ two_ne_zero]
        apply mul_le_mul_of_nonneg_right _ unit.le
        exact_mod_cast high
    rw [unitExponent, log]

end

/-- At the exponent of its last place a magnitude has at most 53 binary places. -/
theorem div_unit_lt (q : ℚ) : q / 2 ^ unitExponent q < 2 ^ 53 := by
  rw [div_lt_iff₀ (zpow_pos two_pos _)]
  have upper : q < 2 ^ (Int.log 2 q + 1) := Int.lt_zpow_succ_log_self one_lt_two q
  refine lt_of_lt_of_le upper ?_
  rw [← zpow_natCast, ← zpow_add₀ two_ne_zero]
  apply zpow_le_zpow_right₀ one_le_two
  unfold unitExponent
  omega

/-- It has exactly as many, unless the exponent is the least one. -/
theorem le_div_unit {q : ℚ} (positive : 0 < q) (normal : -1074 < unitExponent q) :
    2 ^ 52 ≤ q / 2 ^ unitExponent q := by
  rw [le_div_iff₀ (zpow_pos two_pos _)]
  have lower : (2 : ℚ) ^ Int.log 2 q ≤ q := Int.zpow_log_le_self one_lt_two positive
  refine le_trans ?_ lower
  rw [← zpow_natCast, ← zpow_add₀ two_ne_zero]
  apply zpow_le_zpow_right₀ one_le_two
  unfold unitExponent at *
  omega

theorem shiftToTargetExponent_eq {m : ℕ} {e : ℤ} {n : ℕ} (accuracy : Accuracy)
    (amount : (Format.binary64.targetExponent (totalExponent m e) - e).toNat = n) :
    shiftToTargetExponent Format.binary64 m e accuracy =
      (ExtendedMantissa.ofMantissaAndAccuracy m accuracy >>> n, e + n) := by
  rw [← amount]
  rfl

/-- A mantissa that was rounded up to one place too many loses its last place, which is a zero. -/
theorem shiftToTargetExponent_exact {M : ℕ} {u : ℤ} (small : M ≤ 2 ^ 53) (least : -1074 ≤ u)
    (full : -1074 < u → 2 ^ 52 ≤ M) :
    ∃ em e, shiftToTargetExponent Format.binary64 M u .exact = (em, e) ∧
      (em.mantissa = 0 ↔ M = 0) ∧ (M ≠ 0 → IsCanonical em.mantissa e) ∧
      (em.mantissa : ℚ) * 2 ^ e = M * 2 ^ u := by
  rcases Nat.lt_or_eq_of_le small with fits | rfl
  · have low : M.log2 ≤ 52 := by
      by_cases zero : M = 0
      · subst zero
        decide
      · exact Nat.lt_succ_iff.mp ((Nat.log2_lt zero).mpr fits)
    have stays := shiftToTargetExponent_eq (m := M) (e := u) (n := 0) .exact
      (by rw [targetExponent_eq]; omega)
    have kept : (ExtendedMantissa.ofMantissaAndAccuracy M .exact >>> 0).mantissa = M := rfl
    refine ⟨_, _, stays, ?_, ?_, ?_⟩ <;> rw [kept]
    · exact fun _ => by simpa using ⟨fits, least, full⟩
    · simp
  · have log : (2 ^ 53).log2 = 53 := Nat.log2_two_pow
    have moves := shiftToTargetExponent_eq (m := 2 ^ 53) (e := u) (n := 1) .exact
      (by rw [targetExponent_eq, log]; omega)
    have half : (ExtendedMantissa.ofMantissaAndAccuracy (2 ^ 53) .exact >>> 1).mantissa = 2 ^ 52 := by
      decide
    refine ⟨_, _, moves, ?_, ?_, ?_⟩ <;> rw [half]
    · decide
    · exact fun _ => ⟨by decide, by omega, fun _ => le_refl _⟩
    · rw [Nat.cast_one, zpow_add_one₀ (two_ne_zero' ℚ)]
      push_cast
      ring

theorem least_le_unitExponent (q : ℚ) : -1074 ≤ unitExponent q := le_max_right _ _

/-- The places that are left of a magnitude. -/
theorem nearest_places {q : ℚ} {M : ℕ} (positive : 0 < q)
    (nearest : IsNearest (q / 2 ^ unitExponent q) M) :
    nearestFloat q = M * 2 ^ unitExponent q ∧ M ≤ 2 ^ 53 ∧
      (-1074 < unitExponent q → 2 ^ 52 ≤ M) := by
  refine ⟨?_, ?_, fun normal => ?_⟩
  · rw [nearestFloat, roundTo, roundEven_eq nearest, Int.cast_natCast]
  · have upper := nearest.le (.intCast (2 ^ 53)) (by exact_mod_cast (div_unit_lt q).le)
    exact_mod_cast upper
  · have lower := (IsNearest.intCast (2 ^ 52)).le nearest
      (by exact_mod_cast le_div_unit positive normal)
    exact_mod_cast lower

/-- What a magnitude is rounded to before the largest number is taken into account. -/
def IsRounded (s : Sign) (q : ℚ) (u : UnpackedFloat) : Prop :=
  (nearestFloat q = 0 ∧ u = .zero s) ∨
    ∃ m e pos, u = .finite s m e pos ∧ IsCanonical m e ∧ (m : ℚ) * 2 ^ e = nearestFloat q

/-- **Rounding is to the nearest**, wherever enough places are given. -/
theorem isRounded_roundWithAccuracy (s : Sign) {m : ℕ} {e : ℤ} {accuracy : Accuracy} {q : ℚ}
    (positive : 0 < q)
    (represents : Represents (.ofMantissaAndAccuracy m accuracy) (q / 2 ^ e))
    (fine : e ≤ unitExponent q) :
    IsRounded s q (roundWithAccuracy Format.binary64 s m e accuracy) := by
  have mantissa : (ExtendedMantissa.ofMantissaAndAccuracy m accuracy).mantissa = m := by
    unfold ExtendedMantissa.ofMantissaAndAccuracy
    split <;> rfl
  have target : Format.binary64.targetExponent (totalExponent m e) = unitExponent q := by
    have least := represents.least
    have most := represents.most
    rw [mantissa] at least most
    exact targetExponent_of_bounds positive least most fine
  obtain ⟨n, sum⟩ := Int.le.dest fine
  have first := shiftToTargetExponent_eq (m := m) (e := e) (n := n) accuracy
    (by rw [target]; omega)
  rw [sum] at first
  have nearest := (represents.shiftRight n).isNearest
  rw [div_div, ← zpow_natCast, ← zpow_add₀ two_ne_zero, sum] at nearest
  obtain ⟨value, small, full⟩ := nearest_places positive nearest
  obtain ⟨em, e', second, zero_iff, canonical, same⟩ :=
    shiftToTargetExponent_exact small (least_le_unitExponent q) full
  rw [← value] at same
  rw [roundWithAccuracy]
  simp only [first, second]
  by_cases zero : em.mantissa = 0
  · rw [dif_pos zero]
    rw [zero, Nat.cast_zero, zero_mul] at same
    exact Or.inl ⟨same.symm, rfl⟩
  · rw [dif_neg zero]
    exact Or.inr ⟨_, _, _, rfl, canonical fun empty => zero (zero_iff.mpr empty), same⟩

end MacroShell
