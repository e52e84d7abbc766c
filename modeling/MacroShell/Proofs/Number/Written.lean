import Mathlib.Data.List.DropRight
import MacroShell.Proofs.Number.Decimal
import MacroShell.Proofs.Number.Significant
import MacroShell.Proofs.Number.Value

/-!
# How numbers are written

A number in floating point is written by its significant digits, unless it is zero or infinite.
Short integers are written without a point, which are the same digits with the zeros left out.
-/

namespace MacroShell

/-! ## Zeros at the end -/

theorem exists_dropLastZeros (t : Text) :
    ∃ j, t = dropLastZeros t ++ List.replicate j '0' := by
  refine ⟨(t.reverse.takeWhile (· == '0')).length, ?_⟩
  have zeros : t.reverse.takeWhile (· == '0') =
      List.replicate (t.reverse.takeWhile (· == '0')).length '0' := by
    rw [List.eq_replicate_iff]
    refine ⟨rfl, fun c mem => ?_⟩
    have zero := List.all_eq_true.mp List.all_takeWhile c mem
    exact beq_iff_eq.mp zero
  have split := congrArg List.reverse (List.takeWhile_append_dropWhile (p := (· == '0')) (l := t.reverse))
  rw [List.reverse_append, List.reverse_reverse] at split
  conv_lhs => rw [← split]
  rw [dropLastZeros]
  congr 1
  rw [zeros]
  simp

theorem digitsValue_append (a b : Text) :
    digitsValue (a ++ b) = digitsValue a * 10 ^ b.length + digitsValue b := by
  induction b using List.reverseRecOn with
  | nil => simp [digitsValue]
  | append_singleton b c ih =>
    rw [← List.append_assoc, digitsValue_append_singleton, ih, digitsValue_append_singleton,
      List.length_append, List.length_singleton, pow_succ]
    ring

theorem digitsValue_zeros (j : ℕ) : digitsValue (List.replicate j '0') = 0 := by
  induction j with
  | zero => rfl
  | succ j ih =>
    have zero : digitValue '0' = 0 := by decide
    rw [List.replicate_succ', digitsValue_append_singleton, ih, zero]

theorem naturalText_mul_tenPow {n : ℕ} (positive : 0 < n) (j : ℕ) :
    naturalText (n * 10 ^ j) = naturalText n ++ List.replicate j '0' := by
  induction j with
  | zero => simp
  | succ j ih =>
    have filled : 0 < n * 10 ^ j := by positivity
    have step := Nat.toDigits_append_toDigits (b := 10) (by decide) filled (by decide : 0 < 10)
    rw [Nat.toDigits_of_lt_base (by decide : 0 < 10), add_zero] at step
    rw [List.replicate_succ', ← List.append_assoc, ← ih, pow_succ, ← mul_assoc, mul_comm _ 10]
    exact step.symm

/-! ## The text of significant digits -/

theorem significantText_eq {num den : ℕ} (positive : 0 < den)
    (covered : (10 : ℚ) ^ (-400 : ℤ) ≤ num / den) {digits : ℕ} {k : ℤ}
    (h : IsSignificant digits k (nearestDecimal (num / den))) :
    significantText num den = digitsText (naturalText digits) k := by
  obtain ⟨digits', k', found, significant⟩ := exists_significantDigits positive covered
  obtain ⟨rfl, rfl⟩ := h.unique significant
  rw [significantText, found]

theorem IsSignificant.length {digits : ℕ} {k : ℤ} {value : ℚ} (h : IsSignificant digits k value) :
    (naturalText digits).length = 15 := by
  have most : (naturalText digits).length ≤ 15 := (length_naturalText_le_iff (by decide)).mpr h.most
  have least : ¬ (naturalText digits).length ≤ 14 := by
    rw [length_naturalText_le_iff (by decide)]
    exact not_lt.mpr h.least
  omega

/-- The digits of a short integer. -/
theorem isSignificant_natCast {n : ℕ} (positive : 0 < n) (short : n < 10 ^ 15) :
    IsSignificant (n * 10 ^ (15 - (naturalText n).length)) ((naturalText n).length - 1) n := by
  obtain ⟨low, high⟩ := naturalText_bounds positive
  have most : (naturalText n).length ≤ 15 := (length_naturalText_le_iff (by decide)).mpr short
  have least := List.length_pos_iff.mpr (naturalText_ne_nil n)
  generalize (naturalText n).length = L at *
  have lowest : 10 ^ (L - 1) * 10 ^ (15 - L) = 10 ^ 14 := by
    rw [← pow_add]
    congr 1
    omega
  have highest : 10 ^ L * 10 ^ (15 - L) = 10 ^ 15 := by
    rw [← pow_add]
    congr 1
    omega
  refine ⟨?_, ?_, ?_⟩
  · rw [← lowest]
    exact Nat.mul_le_mul_right _ low
  · rw [← highest]
    exact Nat.mul_lt_mul_of_pos_right high (by positivity)
  · rw [Nat.cast_mul, Nat.cast_pow, Nat.cast_ofNat, mul_assoc,
      ten_pow_mul_zpow (15 - L) (l := 0) (by omega), zpow_zero, mul_one]

theorem nearestDecimal_natCast {n : ℕ} (positive : 0 < n) (short : n < 10 ^ 15) :
    nearestDecimal n = n := by
  have significant := isSignificant_natCast positive short
  apply roundTo_multiple (ten_zpow_pos _) (n := (n * 10 ^ (15 - (naturalText n).length) : ℕ))
  rw [digitExponent, significant.log_eq, Int.cast_natCast]
  exact significant.value_eq.symm

/-- A short integer is written without a point. -/
theorem digitsText_natCast {n : ℕ} (positive : 0 < n) (short : n < 10 ^ 15) {digits : ℕ} {k : ℤ}
    (h : IsSignificant digits k (nearestDecimal n)) :
    digitsText (naturalText digits) k = naturalText n := by
  rw [nearestDecimal_natCast positive short] at h
  obtain ⟨rfl, rfl⟩ := h.unique (isSignificant_natCast positive short)
  have least := List.length_pos_iff.mpr (naturalText_ne_nil n)
  have most : (naturalText n).length ≤ 15 := (length_naturalText_le_iff (by decide)).mpr short
  have fifteen : (precision : ℤ) = 15 := rfl
  have place : (((naturalText n).length : ℤ) - 1).toNat + 1 = (naturalText n).length := by omega
  have zeros (j : ℕ) : dropLastZeros (List.replicate j '0') = [] := by
    apply List.rdropWhile_eq_nil_iff.mpr
    intro c mem
    rw [(List.mem_replicate.mp mem).2]
    rfl
  rw [digitsText, if_neg (by simp; omega), if_neg (by omega), place,
    naturalText_mul_tenPow positive, List.take_left, List.drop_left, pointed, zeros]

/-! ## How floating-point numbers are written -/

/-- The sign in front of a text; true is minus. -/
def signText (negative : Bool) : Text := if negative then ['-'] else []

theorem integerText_signed {n : ℕ} (positive : 0 < n) (negative : Bool) :
    integerText (signed negative n) = signText negative ++ naturalText n := by
  obtain ⟨m, rfl⟩ := Nat.exists_eq_succ_of_ne_zero positive.ne'
  cases negative <;> rfl

/-- All binary64 numbers are covered by the search for the first digit. -/
theorem ten_zpow_le_places {m : ℕ} {e : ℤ} (filled : 0 < m) (least : -1074 ≤ e) :
    (10 : ℚ) ^ (-400 : ℤ) ≤ m * 2 ^ e := by
  have one : (1 : ℚ) ≤ m := by exact_mod_cast filled
  calc (10 : ℚ) ^ (-400 : ℤ) ≤ 8 ^ (-400 : ℤ) := by
        rw [zpow_neg, zpow_neg]
        exact inv_anti₀ (by positivity) (zpow_le_zpow_left₀ (by decide) (by norm_num) (by norm_num))
    _ = 2 ^ (-1200 : ℤ) := by
        rw [show (8 : ℚ) = 2 ^ (3 : ℤ) by norm_num, ← zpow_mul]
        rfl
    _ ≤ 2 ^ e := zpow_le_zpow_right₀ one_le_two (by omega)
    _ ≤ m * 2 ^ e := le_mul_of_one_le_left (by positivity) one

/-- Whether or not a short integer is written as such makes no difference. -/
theorem quotientText_eq {negative : Bool} {num den : ℕ} {r : ℚ} (denom : 0 < den)
    (quotient : (num : ℚ) / den = r) (positive : 0 < r) (covered : (10 : ℚ) ^ (-400 : ℤ) ≤ r)
    {digits : ℕ} {k : ℤ} (significant : IsSignificant digits k (nearestDecimal r)) :
    (if num % den == 0 && num < den * tenTo precision then integerText (signed negative (num / den))
      else (if negative then ['-'] else []) ++ significantText num den) =
      signText negative ++ digitsText (naturalText digits) k := by
  split
  · rename_i short
    rw [Bool.and_eq_true, decide_eq_true_eq, beq_iff_eq] at short
    obtain ⟨n, rfl⟩ := Nat.dvd_of_mod_eq_zero short.1
    have whole : (n : ℚ) = r := by
      rw [← quotient, Nat.cast_mul, mul_div_cancel_left₀]
      exact_mod_cast denom.ne'
    have some : 0 < n := by
      rw [← whole] at positive
      exact_mod_cast positive
    rw [← whole] at significant
    rw [Nat.mul_div_cancel_left n denom, integerText_signed some,
      digitsText_natCast some (Nat.lt_of_mul_lt_mul_left short.2) significant]
  · subst quotient
    rw [significantText_eq denom covered significant]
    rfl

section
variable {negative : Bool} {r : ℚ} {x : Float} (h : IsFloat negative r x)
include h

theorem floatText_infinity (past : 2 ^ 1024 ≤ r) :
    floatText x = if negative then "-inf".toList else "inf".toList := by
  have origin : (0 : Float).toModel.unpack = .zero .positive := by rfl
  have below : x < 0 ↔ x.toModel.unpack.lt (.zero .positive) = true := by
    change decide (x.toModel < (0 : Float).toModel) = true ↔ _
    rw [decide_eq_true_iff, ← origin]
    rfl
  have known : x.isNaN = x.toModel.unpack.isNaN := rfl
  rw [floatText, ofFloat?_eq, known]
  simp only [below]
  unfold IsFloat at h
  generalize x.toModel.unpack = u at *
  cases h with
  | zero nothing =>
    rw [nothing] at past
    exact absurd past (not_le.mpr (by positivity))
  | finite pos canonical top value =>
    rw [← value] at past
    exact absurd past (not_le.mpr (canonical.lt_limit top))
  | infinity past => cases negative <;> rfl

theorem floatText_zero (nothing : r = 0) : floatText x = ['0'] := by
  obtain ⟨⟨negative', m, e⟩, exactly, rfl, -, value⟩ := h.exists_dyadic (by rw [nothing]; positivity)
  rw [nothing, mul_eq_zero, Nat.cast_eq_zero] at value
  obtain rfl := value.resolve_right (zpow_pos two_pos e).ne'
  have none : (⟨negative', 0, e⟩ : Dyadic).numerator = 0 := Nat.zero_mul _
  have some : 0 < (⟨negative', 0, e⟩ : Dyadic).denominator * tenTo precision :=
    Nat.mul_pos (Nat.pow_pos (by decide)) (Nat.pow_pos (by decide))
  rw [floatText, exactly]
  simp only [Dyadic.isInteger, none, some, Nat.zero_mod, Nat.zero_div, BEq.rfl, decide_true,
    Bool.and_self, if_true]
  cases negative' <;> rfl

theorem floatText_finite (positive : 0 < r) (bounded : r < 2 ^ 1024) {digits : ℕ} {k : ℤ}
    (significant : IsSignificant digits k (nearestDecimal r)) :
    floatText x = signText negative ++ digitsText (naturalText digits) k := by
  obtain ⟨d, exactly, rfl, least, value⟩ := h.exists_dyadic bounded
  have quotient := d.numerator_div_denominator.trans value
  have filled : 0 < d.significand := by
    apply Nat.pos_of_ne_zero
    intro none
    rw [← value, none, Nat.cast_zero, zero_mul] at positive
    exact positive.false
  have covered : (10 : ℚ) ^ (-400 : ℤ) ≤ r := by
    rw [← value]
    exact ten_zpow_le_places filled least
  rw [floatText, exactly]
  exact quotientText_eq (Nat.pow_pos (by decide)) quotient positive covered significant

end

/-- How a sign and a magnitude are written. -/
inductive IsWritten (negative : Bool) (r : ℚ) : Text → Prop
  | zero (nothing : r = 0) : IsWritten negative r ['0']
  | finite {digits : ℕ} {k : ℤ} (positive : 0 < r) (bounded : r < 2 ^ 1024)
      (significant : IsSignificant digits k (nearestDecimal r)) :
      IsWritten negative r (signText negative ++ digitsText (naturalText digits) k)
  | infinity (past : 2 ^ 1024 ≤ r) : IsWritten negative r (signText negative ++ "inf".toList)

/-- **A number in floating point is written as its sign and its magnitude are.** -/
theorem IsFloat.isWritten {negative : Bool} {r : ℚ} {x : Float} (h : IsFloat negative r x) :
    IsWritten negative r (floatText x) := by
  by_cases past : 2 ^ 1024 ≤ r
  · have text : floatText x = signText negative ++ "inf".toList := by
      rw [floatText_infinity h past]
      cases negative <;> rfl
    rw [text]
    exact .infinity past
  rcases h.nonneg.eq_or_lt with nothing | positive
  · rw [floatText_zero h nothing.symm]
    exact .zero nothing.symm
  · obtain ⟨digits, k, significant, -⟩ := exists_isSignificant positive
    rw [floatText_finite h positive (not_le.mp past) significant]
    exact .finite positive (not_le.mp past) significant

namespace IsWritten

variable {negative : Bool} {r : ℚ} {t magnitude : Text}

/-- The sign is written in front of the magnitude. -/
theorem eq_append (positive : 0 < r) (h : IsWritten false r magnitude) (h' : IsWritten negative r t) :
    t = signText negative ++ magnitude := by
  cases h with
  | zero nothing => exact absurd nothing positive.ne'
  | finite _ bounded significant =>
    cases h' with
    | zero nothing => exact absurd nothing positive.ne'
    | finite _ _ significant' =>
      obtain ⟨rfl, rfl⟩ := significant.unique significant'
      rfl
    | infinity past => exact absurd past (not_le.mpr bounded)
  | infinity past =>
    cases h' with
    | zero nothing => exact absurd nothing positive.ne'
    | finite _ bounded _ => exact absurd past (not_le.mpr bounded)
    | infinity _ => rfl

/-- Short integers are written exactly. -/
theorem natCast {n : ℕ} (short : n < 10 ^ 15) (h : IsWritten negative n t) :
    t = integerText (signed negative n) := by
  cases h with
  | zero nothing =>
    rw [Nat.cast_eq_zero] at nothing
    subst nothing
    cases negative <;> rfl
  | finite positive _ significant =>
    have filled : 0 < n := by exact_mod_cast positive
    rw [digitsText_natCast filled short significant, integerText_signed filled]
  | infinity past =>
    have below : (n : ℚ) < 10 ^ 15 := by exact_mod_cast short
    have limit : (10 : ℚ) ^ 15 ≤ 2 ^ 1024 :=
      (by norm_num : (10 : ℚ) ^ 15 ≤ 2 ^ 60).trans (pow_le_pow_right₀ one_le_two (by decide))
    exact absurd (limit.trans past) (not_le.mpr below)

end IsWritten

end MacroShell
