import Mathlib.Algebra.Order.Field.Basic
import Mathlib.Algebra.Order.Field.Rat
import Mathlib.Algebra.Ring.Int.Parity
import Mathlib.Data.Rat.Cast.Order
import Mathlib.Tactic.FieldSimp
import Mathlib.Tactic.Linarith
import Mathlib.Tactic.Ring
import MacroShell.Number.Integer

/-!
# Rounding to the nearest

The integer nearest a number is at most one half away, and even if it is exactly one half away.
Rounding to multiples of a unit is the same in that unit.
-/

namespace MacroShell

/-! ## The nearest integer -/

/-- The integer nearest a number; of two, the even one. -/
structure IsNearest (q : ℚ) (n : ℤ) : Prop where
  close : |q - n| ≤ 1 / 2
  even : |q - n| = 1 / 2 → Even n

namespace IsNearest

variable {q r : ℚ} {m n : ℤ}

theorem bounds (h : IsNearest q n) : (n : ℚ) - 1 / 2 ≤ q ∧ q ≤ n + 1 / 2 := by
  have close := abs_le.mp h.close
  constructor <;> linarith

/-- The nearest integer does not fall when the number grows: neighbours are not both even. -/
theorem le (hq : IsNearest q n) (hr : IsNearest r m) (h : q ≤ r) : n ≤ m := by
  by_contra less
  have step : (m : ℚ) + 1 ≤ n := by exact_mod_cast not_le.mp less
  have lower := hq.bounds.1
  have upper := hr.bounds.2
  have evenN : Even n := by
    apply hq.even
    rw [show q - n = -(1 / 2) by linarith, abs_neg, abs_of_pos (by norm_num)]
  have evenM : Even m := by
    apply hr.even
    rw [show r - m = 1 / 2 by linarith, abs_of_pos (by norm_num)]
  have next : (n : ℚ) = m + 1 := by linarith
  have same : n = m + 1 := by exact_mod_cast next
  rw [same, Int.even_add_one] at evenN
  exact evenN evenM

theorem unique (h : IsNearest q n) (h' : IsNearest q m) : n = m :=
  le_antisymm (h.le h' (le_refl q)) (h'.le h (le_refl q))

theorem neg (h : IsNearest q n) : IsNearest (-q) (-n) := by
  have same : |-q - ((-n : ℤ) : ℚ)| = |q - n| := by
    rw [← abs_neg (q - n), Int.cast_neg]
    congr 1
    ring
  constructor
  · rw [same]
    exact h.close
  · rw [same]
    exact fun half => (h.even half).neg

theorem of_lt (h : |q - n| < 1 / 2) : IsNearest q n :=
  ⟨h.le, fun half => absurd half h.ne⟩

theorem intCast (n : ℤ) : IsNearest n n :=
  of_lt (by simp)

/-- Halfway between two neighbours the even one is nearest. -/
theorem middle (m : ℕ) : IsNearest (m + 1 / 2) (m + m % 2 : ℕ) := by
  have even : Even ((m + m % 2 : ℕ) : ℤ) := by
    rw [Int.even_coe_nat, Nat.even_iff]
    omega
  refine ⟨?_, fun _ => even⟩
  rcases Nat.mod_two_eq_zero_or_one m with zero | one
  · rw [zero]
    norm_num
  · rw [one]
    norm_num

end IsNearest

/-- The nearest integer of a quotient, said without the quotient. -/
theorem isNearest_div_iff {num n : ℤ} {den : ℕ} (h : 0 < den) :
    IsNearest (num / den) n ↔
      2 * |num - n * den| ≤ den ∧ (2 * |num - n * den| = den → Even n) := by
  have positive : (0 : ℚ) < den := by exact_mod_cast h
  have distance : |(num : ℚ) / den - n| = (|num - n * den| : ℤ) / den := by
    push_cast
    rw [← abs_of_pos positive, ← abs_div, abs_of_pos positive, sub_div, mul_div_assoc,
      div_self positive.ne', mul_one]
  have le_iff : |(num : ℚ) / den - n| ≤ 1 / 2 ↔ 2 * |num - n * den| ≤ den := by
    rw [distance, div_le_div_iff₀ positive two_pos, one_mul, mul_comm]
    exact_mod_cast Iff.rfl
  have eq_iff : |(num : ℚ) / den - n| = 1 / 2 ↔ 2 * |num - n * den| = den := by
    rw [distance, div_eq_div_iff positive.ne' two_ne_zero, one_mul, mul_comm]
    exact_mod_cast Iff.rfl
  constructor
  · rintro ⟨close, even⟩
    exact ⟨le_iff.mp close, fun half => even (eq_iff.mpr half)⟩
  · rintro ⟨close, even⟩
    exact ⟨le_iff.mpr close, fun half => even (eq_iff.mp half)⟩

/-- A quotient is rounded to the nearest integer. -/
theorem isNearest_roundQuotient (num : ℤ) {den : ℕ} (h : 0 < den) :
    IsNearest (num / den) (roundQuotient num den) := by
  have split := Int.mul_ediv_add_emod num den
  have least := Int.emod_nonneg num (show (den : ℤ) ≠ 0 by omega)
  have most := Int.emod_lt_of_pos num (show (0 : ℤ) < den by omega)
  rw [isNearest_div_iff h]
  unfold roundQuotient
  simp only [Bool.or_eq_true, Bool.and_eq_true, decide_eq_true_eq, beq_iff_eq]
  split
  · rename_i up
    have above : num - (num / den + 1) * den = -(den - num % den) := by linarith
    rw [above, abs_neg, abs_of_nonneg (by omega)]
    refine ⟨by omega, fun half => ?_⟩
    have odd : num / den % 2 = 1 := by omega
    exact (Int.odd_iff.mpr odd).add_one
  · rename_i down
    have below : num - num / den * den = num % den := by linarith
    rw [below, abs_of_nonneg least]
    refine ⟨by omega, fun half => ?_⟩
    have even : num / den % 2 ≠ 1 := by omega
    exact Int.even_iff.mpr (by omega)

/-! ## Rounding of rational numbers -/

def roundEven (q : ℚ) : ℤ := roundQuotient q.num q.den

theorem isNearest_roundEven (q : ℚ) : IsNearest q (roundEven q) := by
  have nearest := isNearest_roundQuotient q.num q.den_pos
  rwa [Rat.num_div_den] at nearest

theorem roundEven_eq {q : ℚ} {n : ℤ} (h : IsNearest q n) : roundEven q = n :=
  (isNearest_roundEven q).unique h

theorem roundQuotient_eq (num : ℤ) {den : ℕ} (h : 0 < den) :
    roundQuotient num den = roundEven (num / den) :=
  (roundEven_eq (isNearest_roundQuotient num h)).symm

theorem roundEven_intCast (n : ℤ) : roundEven n = n :=
  roundEven_eq (.intCast n)

theorem roundEven_neg (q : ℚ) : roundEven (-q) = -roundEven q :=
  roundEven_eq (isNearest_roundEven q).neg

theorem roundQuotient_neg (num : ℤ) {den : ℕ} (h : 0 < den) :
    roundQuotient (-num) den = -roundQuotient num den := by
  rw [roundQuotient_eq _ h, roundQuotient_eq _ h, Int.cast_neg, neg_div, roundEven_neg]

/-- Rounding a magnitude to a multiple and giving it its sign. -/
theorem roundQuotient_natAbs_mul (n : ℤ) {den : ℕ} (h : 0 < den) :
    (if n < 0 then -(roundQuotient n.natAbs den * den) else roundQuotient n.natAbs den * den) =
      roundQuotient n den * den := by
  split
  · have size : (n.natAbs : ℤ) = -n := by omega
    rw [size, roundQuotient_neg n h, neg_mul, neg_neg]
  · have size : (n.natAbs : ℤ) = n := by omega
    rw [size]

/-- Only multiples of the denominator are left as they are. -/
theorem roundQuotient_mul_eq_iff {num : ℤ} {den : ℕ} (h : 0 < den) :
    roundQuotient num den * den = num ↔ (den : ℤ) ∣ num := by
  constructor
  · intro same
    exact ⟨_, by rw [mul_comm, same]⟩
  · rintro ⟨n, rfl⟩
    have positive : (den : ℚ) ≠ 0 := by exact_mod_cast h.ne'
    rw [roundQuotient_eq _ h, Int.cast_mul, Int.cast_natCast, mul_div_cancel_left₀ _ positive,
      roundEven_intCast, mul_comm]

theorem roundEven_le {q r : ℚ} (h : q ≤ r) : roundEven q ≤ roundEven r :=
  (isNearest_roundEven q).le (isNearest_roundEven r) h

/-! ## Multiples of a unit -/

def roundTo (unit q : ℚ) : ℚ := roundEven (q / unit) * unit

section
variable {unit q r : ℚ} (positive : 0 < unit)
include positive

theorem abs_roundTo_sub_le (q : ℚ) : |roundTo unit q - q| ≤ unit / 2 := by
  have close := (isNearest_roundEven (q / unit)).close
  have distance : |roundTo unit q - q| = |q / unit - roundEven (q / unit)| * unit := by
    rw [← abs_of_pos positive, ← abs_mul, abs_of_pos positive, abs_sub_comm, roundTo, sub_mul,
      div_mul_cancel₀ q positive.ne']
  rw [distance]
  linarith [mul_le_mul_of_nonneg_right close positive.le]

theorem roundTo_le (h : q ≤ r) : roundTo unit q ≤ roundTo unit r := by
  apply mul_le_mul_of_nonneg_right _ positive.le
  exact_mod_cast roundEven_le (div_le_div_of_nonneg_right h positive.le)

theorem roundTo_multiple {n : ℤ} (h : q = n * unit) : roundTo unit q = q := by
  rw [h, roundTo, mul_div_cancel_right₀ _ positive.ne', roundEven_intCast]

/-- A multiple of the unit is found from anywhere nearby. -/
theorem roundTo_eq_of_lt {n : ℤ} (h : |q - n * unit| < unit / 2) : roundTo unit q = n * unit := by
  have near : |q / unit - n| < 1 / 2 := by
    have distance : |q / unit - n| = |q - n * unit| / unit := by
      rw [← abs_of_pos positive, ← abs_div, abs_of_pos positive, sub_div,
        mul_div_cancel_right₀ _ positive.ne']
    rw [distance, div_lt_div_iff₀ positive two_pos]
    linarith
  rw [roundTo, roundEven_eq (.of_lt near)]

end

end MacroShell
