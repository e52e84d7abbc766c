import MacroShell.Proofs.Number.ReadBack

/-!
# Between binary and decimal places

Fifteen significant digits are fewer than a binary64 number holds, so that they survive reading.
Close to zero, where numbers have fewer places, the digits single out the number they were taken
from; only at the upper end are there digits past the largest number.
-/

namespace MacroShell

/-! ## Numbers with the same digits -/

section
variable {digits : ℕ} {k : ℤ} {value q : ℚ} (h : IsSignificant digits k value)
include h

theorem nearestDecimal_of_near_of_le (reached : 10 ^ k ≤ q)
    (near : |q - value| < 10 ^ (k - 14) / 2) : nearestDecimal q = value := by
  have unit := ten_zpow_pos (k - 14)
  obtain ⟨-, most, value_eq⟩ := h
  have next : (10 : ℚ) ^ 15 * 10 ^ (k - 14) = 10 ^ (k + 1) := ten_pow_mul_zpow 15 (by omega)
  have high : (digits : ℚ) + 1 ≤ 10 ^ 15 := by exact_mod_cast most
  have scaled := mul_le_mul_of_nonneg_right high unit.le
  have bounds := abs_lt.mp near
  have log : Int.log 10 q = k := by
    apply log_eq (by decide)
    · rw [Nat.cast_ofNat]
      exact reached
    · rw [Nat.cast_ofNat, ← next]
      linarith
  rw [nearestDecimal, digitExponent, log, ← value_eq]
  rw [← value_eq] at near
  exact roundTo_eq_of_lt unit (n := digits) (by exact_mod_cast near)

/-- Right below a power of ten there is one more place. -/
theorem nearestDecimal_of_near_of_lt (power : digits = 10 ^ 14) (less : q < 10 ^ k)
    (near : value - q < 10 ^ (k - 14) / 20) : nearestDecimal q = value := by
  have value_eq := h.value_eq
  have unit := ten_zpow_pos (k - 14)
  have whole : (10 : ℚ) ^ 14 * 10 ^ (k - 14) = 10 ^ k := ten_pow_mul_zpow 14 (by omega)
  have tenth : (10 : ℚ) ^ 1 * 10 ^ (k - 1 - 14) = 10 ^ (k - 14) := ten_pow_mul_zpow 1 (by omega)
  have previous : (10 : ℚ) ^ 13 * 10 ^ (k - 14) = 10 ^ (k - 1) := ten_pow_mul_zpow 13 (by omega)
  rw [power, Nat.cast_pow, Nat.cast_ofNat] at value_eq
  have log : Int.log 10 q = k - 1 := by
    apply log_eq (by decide)
    · rw [Nat.cast_ofNat, ← previous]
      linarith
    · rw [Nat.cast_ofNat, sub_add_cancel]
      exact less
  have multiple : value = (10 ^ 15 : ℤ) * 10 ^ (k - 1 - 14) := by
    push_cast
    linarith
  rw [nearestDecimal, digitExponent, log, multiple]
  apply roundTo_eq_of_lt (ten_zpow_pos _)
  rw [← multiple, abs_lt]
  constructor <;> linarith

/-- A number has the digits that it is close to. Right below a power of ten, where digits count for
less, it has to be closer. -/
theorem nearestDecimal_of_near (near : |q - value| < 10 ^ (k - 14) / 2)
    (below : digits = 10 ^ 14 → value - q < 10 ^ (k - 14) / 20) : nearestDecimal q = value := by
  by_cases reached : (10 : ℚ) ^ k ≤ q
  · exact nearestDecimal_of_near_of_le h reached near
  · have small : digits = 10 ^ 14 := by
      by_contra other
      have least := h.least
      have value_eq := h.value_eq
      have unit := ten_zpow_pos (k - 14)
      have whole : (10 : ℚ) ^ 14 * 10 ^ (k - 14) = 10 ^ k := ten_pow_mul_zpow 14 (by omega)
      have more : (10 : ℚ) ^ 14 + 1 ≤ digits := by exact_mod_cast (by omega : 10 ^ 14 + 1 ≤ digits)
      have scaled := mul_le_mul_of_nonneg_right more unit.le
      have bounds := abs_lt.mp near
      linarith
    exact nearestDecimal_of_near_of_lt h small (not_le.mp reached) (below small)

end

/-! ## How close reading comes -/

/-- The distance from a number to the binary64 number nearest to it. -/
theorem abs_nearestFloat_sub_le {q : ℚ} (positive : 0 < q) :
    |nearestFloat q - q| ≤ q / 2 ^ 53 ∨ |nearestFloat q - q| ≤ 2 ^ (-1075 : ℤ) := by
  have close : |nearestFloat q - q| ≤ 2 ^ unitExponent q / 2 := abs_roundTo_sub_le (unit_pos q) q
  by_cases normal : -1074 < unitExponent q
  · left
    have places := le_div_unit positive normal
    rw [le_div_iff₀ (unit_pos q)] at places
    rw [le_div_iff₀ (by positivity)]
    have scaled := mul_le_mul_of_nonneg_right close (by positivity : (0 : ℚ) ≤ 2 ^ 53)
    calc |nearestFloat q - q| * 2 ^ 53 ≤ 2 ^ unitExponent q / 2 * 2 ^ 53 := scaled
      _ = 2 ^ 52 * 2 ^ unitExponent q := by ring
      _ ≤ q := places
  · right
    have unit : unitExponent q = -1074 := le_antisymm (not_lt.mp normal) (least_le_unitExponent q)
    rwa [unit, half_of_least] at close

/-- All binary64 numbers are multiples of the least one. -/
theorem exists_multiple (q : ℚ) : ∃ n : ℤ, nearestFloat q = n * 2 ^ (-1074 : ℤ) := by
  obtain ⟨j, sum⟩ := Int.le.dest (least_le_unitExponent q)
  refine ⟨roundEven (q / 2 ^ unitExponent q) * 2 ^ j, ?_⟩
  rw [nearestFloat, roundTo, ← sum, zpow_add₀ two_ne_zero, zpow_natCast, Int.cast_mul, Int.cast_pow,
    Int.cast_two]
  ring

/-! ## The lower end -/

/-- Powers of two and of ten close to the least number. -/
theorem least_bounds : (10 : ℚ) ^ (-324 : ℤ) < 2 ^ (-1074 : ℤ) ∧
    2 ^ (-1075 : ℤ) < (10 : ℚ) ^ (-323 : ℤ) / 2 ∧ 2 ^ (-1075 : ℤ) < (10 : ℚ) ^ (-322 : ℤ) / 20 ∧
    (10 : ℚ) ^ (-309 : ℤ) < 2 ^ (-1022 : ℤ) ∧
    404804506614621 * 2 ^ (-1075 : ℤ) < (10 : ℚ) ^ (-309 : ℤ) ∧
    (10 : ℚ) ^ (-309 : ℤ) < 404804506614622 * 2 ^ (-1075 : ℤ) := by
  have naturals : 2 ^ 1074 < 10 ^ 324 ∧ 10 ^ 323 * 2 < 2 ^ 1075 ∧ 10 ^ 322 * 20 < 2 ^ 1075 ∧
      2 ^ 1022 < 10 ^ 309 ∧ 404804506614621 * 10 ^ 309 < 2 ^ 1075 ∧
      2 ^ 1075 < 404804506614622 * 10 ^ 309 := by decide +kernel
  obtain ⟨first, second, third, fourth, low, high⟩ := naturals
  simp only [zpow_neg, zpow_ofNat, ← one_div, div_div, mul_one_div]
  refine ⟨?_, ?_, ?_, ?_, ?_, ?_⟩
  · exact one_div_lt_one_div_of_lt (by positivity) (by exact_mod_cast first)
  · exact one_div_lt_one_div_of_lt (by positivity) (by exact_mod_cast second)
  · exact one_div_lt_one_div_of_lt (by positivity) (by exact_mod_cast third)
  · exact one_div_lt_one_div_of_lt (by positivity) (by exact_mod_cast fourth)
  · rw [div_lt_div_iff₀ (by positivity) (by positivity), one_mul]
    exact_mod_cast low
  · rw [div_lt_div_iff₀ (by positivity) (by positivity), one_mul]
    exact_mod_cast high

/-- The power of ten from which on digits are coarser than places is rounded up. -/
theorem le_nearestFloat_power : (10 : ℚ) ^ (-309 : ℤ) ≤ nearestFloat (10 ^ (-309 : ℤ)) := by
  obtain ⟨-, -, -, small, low, high⟩ := least_bounds
  have half := half_of_least
  have near : |(10 : ℚ) ^ (-309 : ℤ) - (202402253307311 : ℤ) * 2 ^ (-1074 : ℤ)| < 2 ^ (-1075 : ℤ) := by
    rw [abs_lt, Int.cast_ofNat]
    constructor <;> linarith
  rw [nearestFloat_of_near (ten_zpow_pos _) small near, Int.cast_ofNat]
  linarith

/-! ## Reading digits -/

theorem nearestDecimal_le {x : ℚ} (positive : 0 < x) :
    nearestDecimal x ≤ 10 ^ (Int.log 10 x + 1) := by
  obtain ⟨-, most, value⟩ := nearest_digits positive (isNearest_roundEven _)
  have digits : (roundEven (x / 10 ^ digitExponent x) : ℚ) ≤ 10 ^ 15 := by exact_mod_cast most
  have last : digitExponent x + 15 = Int.log 10 x + 1 := by
    unfold digitExponent
    omega
  rw [← value, ← ten_pow_mul_zpow 15 last]
  exact mul_le_mul_of_nonneg_right digits (ten_zpow_pos _).le

/-- Very close to zero there are more digits than places, so that a number is found again. -/
theorem nearestFloat_nearestDecimal_of_small {x : ℚ} (positive : 0 < x)
    (small : Int.log 10 x ≤ -310) {n : ℤ} (multiple : x = n * 2 ^ (-1074 : ℤ)) :
    nearestFloat (nearestDecimal x) = x := by
  obtain ⟨first, -, -, last, -⟩ := least_bounds
  obtain ⟨digits, k, significant, -⟩ := exists_isSignificant positive
  have bounded : nearestDecimal x < 2 ^ (-1022 : ℤ) := by
    refine ((nearestDecimal_le positive).trans ?_).trans_lt last
    exact zpow_le_zpow_right₀ (by norm_num) (by omega)
  have unit : (10 : ℚ) ^ digitExponent x ≤ 10 ^ (-324 : ℤ) := by
    apply zpow_le_zpow_right₀ (by norm_num)
    unfold digitExponent
    omega
  have close : |nearestDecimal x - x| ≤ 10 ^ digitExponent x / 2 :=
    abs_roundTo_sub_le (ten_zpow_pos _) x
  have near : |nearestDecimal x - n * 2 ^ (-1074 : ℤ)| < 2 ^ (-1075 : ℤ) := by
    rw [← multiple, ← half_of_least]
    linarith
  exact (nearestFloat_of_near significant.pos bounded near).trans multiple.symm

/-- Elsewhere the digits are so few that a number close to them has the same ones. -/
theorem nearestDecimal_nearestFloat_of_large {digits : ℕ} {k : ℤ} {value : ℚ}
    (significant : IsSignificant digits k value) (large : -309 ≤ k) :
    nearestDecimal (nearestFloat value) = value := by
  obtain ⟨-, second, third, -⟩ := least_bounds
  have unit := ten_zpow_pos (k - 14)
  have value_eq := significant.value_eq
  have most : (digits : ℚ) < 10 ^ 15 := by exact_mod_cast significant.most
  have scaled : digits * (10 : ℚ) ^ (k - 14) < 10 ^ 15 * 10 ^ (k - 14) :=
    mul_lt_mul_of_pos_right most unit
  have least : (10 : ℚ) ^ (-323 : ℤ) ≤ 10 ^ (k - 14) :=
    zpow_le_zpow_right₀ (by norm_num) (by omega)
  have distance := abs_nearestFloat_sub_le significant.pos
  apply nearestDecimal_of_near significant
  · rcases distance with relative | absolute
    · refine lt_of_le_of_lt relative ?_
      rw [div_lt_div_iff₀ (by positivity) two_pos]
      linarith
    · linarith
  · intro power
    have lowest : value = 10 ^ k := by
      rw [← value_eq, power, Nat.cast_pow, Nat.cast_ofNat, ten_pow_mul_zpow 14 (l := k) (by omega)]
    by_cases last : k = -309
    · rw [lowest, last]
      exact (sub_nonpos.mpr le_nearestFloat_power).trans_lt (by positivity)
    · have finer : (10 : ℚ) ^ (-322 : ℤ) ≤ 10 ^ (k - 14) :=
        zpow_le_zpow_right₀ (by norm_num) (by omega)
      rw [power, Nat.cast_pow, Nat.cast_ofNat] at value_eq
      rcases distance with relative | absolute
      · have below := (abs_le.mp relative).1
        rw [← value_eq] at below ⊢
        linarith
      · have below := (abs_le.mp absolute).1
        linarith

/-- **Digits survive reading.** -/
theorem nearestDecimal_nearestFloat {x : ℚ} (positive : 0 < x) {n : ℤ}
    (multiple : x = n * 2 ^ (-1074 : ℤ)) :
    nearestDecimal (nearestFloat (nearestDecimal x)) = nearestDecimal x := by
  by_cases small : Int.log 10 x ≤ -310
  · rw [nearestFloat_nearestDecimal_of_small positive small multiple]
  · obtain ⟨digits, k, significant, reached⟩ := exists_isSignificant positive
    exact nearestDecimal_nearestFloat_of_large significant (by omega)

/-! ## The upper end -/

theorem last_place : (2 : ℚ) ^ (971 : ℤ) = 2 * 2 ^ 970 := by
  rw [zpow_ofNat, pow_succ']

theorem nearestFloat_lt_of_lt_limit {q : ℚ} (positive : 0 < q) (less : q < 2 ^ 1024 - 2 ^ 970) :
    nearestFloat q < 2 ^ 1024 := by
  have place : (0 : ℚ) < 2 ^ 970 := by positivity
  have log : Int.log 2 q < 1024 := by
    apply (Int.lt_zpow_iff_log_lt one_lt_two positive).mp
    rw [Nat.cast_two, zpow_ofNat]
    exact less.trans (sub_lt_self _ place)
  have unit : (2 : ℚ) ^ unitExponent q ≤ 2 * 2 ^ 970 := by
    rw [← last_place]
    apply zpow_le_zpow_right₀ one_le_two
    unfold unitExponent
    omega
  have close : |nearestFloat q - q| ≤ 2 ^ unitExponent q / 2 := abs_roundTo_sub_le (unit_pos q) q
  have above := (abs_le.mp close).2
  generalize (2 : ℚ) ^ 970 = half at *
  generalize (2 : ℚ) ^ 1024 = limit at *
  linarith only [less, above, unit]

/-- The number halfway between the largest one and the limit goes to the limit, which is even. -/
theorem roundTo_limit : roundTo (2 ^ (971 : ℤ)) (2 ^ 1024 - 2 ^ 970) = 2 ^ 1024 := by
  have place : (0 : ℚ) < 2 ^ 970 := by positivity
  have limit : (2 : ℚ) ^ 1024 = 2 ^ 54 * 2 ^ 970 := by rw [← pow_add]
  rw [limit, last_place]
  generalize (2 : ℚ) ^ 970 = half at *
  have middle : (2 ^ 54 * half - half) / (2 * half) = (2 ^ 53 - 1 : ℕ) + 1 / 2 := by
    field_simp
    norm_num
  rw [roundTo, middle, roundEven_eq (.middle _)]
  norm_num
  ring

theorem le_nearestFloat_of_limit_le {q : ℚ} (reached : 2 ^ 1024 - 2 ^ 970 ≤ q) :
    2 ^ 1024 ≤ nearestFloat q := by
  have power : (2 : ℚ) ^ (1024 : ℤ) = 2 ^ 1024 := zpow_ofNat 2 1024
  by_cases past : (2 : ℚ) ^ 1024 ≤ q
  · rw [← power] at past ⊢
    exact le_nearestFloat (by decide) past
  · have half : (2 : ℚ) ^ 1023 ≤ 2 ^ 1024 - 2 ^ 970 := by
      have less : (2 : ℚ) ^ 970 ≤ 2 ^ 1023 := pow_le_pow_right₀ one_le_two (by omega)
      have twice : (2 : ℚ) ^ 1024 = 2 * 2 ^ 1023 := pow_succ' 2 1023
      rw [twice, le_sub_iff_add_le, two_mul]
      exact add_le_add_right less _
    have log : Int.log 2 q = 1023 := by
      apply log_eq one_lt_two
      · rw [Nat.cast_two, zpow_ofNat]
        exact half.trans reached
      · rw [Nat.cast_two, show (1023 : ℤ) + 1 = 1024 from rfl, power]
        exact not_le.mp past
    have unit : unitExponent q = 971 := by
      rw [unitExponent, log]
      rfl
    calc (2 : ℚ) ^ 1024 = roundTo (2 ^ (971 : ℤ)) (2 ^ 1024 - 2 ^ 970) := roundTo_limit.symm
      _ ≤ roundTo (2 ^ (971 : ℤ)) q := roundTo_le (zpow_pos two_pos _) reached
      _ = nearestFloat q := by rw [nearestFloat, unit]

/-- A number overflows from half a place above the largest one. -/
theorem overflow_iff {q : ℚ} (positive : 0 < q) :
    2 ^ 1024 ≤ nearestFloat q ↔ 2 ^ 1024 - 2 ^ 970 ≤ q := by
  constructor
  · intro past
    by_contra less
    exact not_lt.mpr past (nearestFloat_lt_of_lt_limit positive (not_le.mp less))
  · exact le_nearestFloat_of_limit_le

/-- Powers of two and of ten close to the largest number. -/
theorem limit_bounds : (2 : ℚ) ^ 1024 < 10 ^ (309 : ℤ) ∧
    179769313486231 * (10 : ℚ) ^ (294 : ℤ) < 2 ^ 1024 - 2 ^ 970 ∧
    2 ^ 1024 - 2 ^ 970 ≤ 179769313486232 * (10 : ℚ) ^ (294 : ℤ) ∧
    2 ^ 1024 + (10 : ℚ) ^ (294 : ℤ) / 2 < 179769313486233 * 10 ^ (294 : ℤ) := by
  have naturals : 2 ^ 1024 < 10 ^ 309 ∧ 179769313486231 * 10 ^ 294 + 2 ^ 970 < 2 ^ 1024 ∧
      2 ^ 1024 ≤ 179769313486232 * 10 ^ 294 + 2 ^ 970 ∧
      2 ^ 1024 * 2 + 10 ^ 294 < 179769313486233 * 10 ^ 294 * 2 := by decide +kernel
  obtain ⟨top, low, middle, high⟩ := naturals
  simp only [zpow_ofNat]
  refine ⟨by exact_mod_cast top, ?_, ?_, ?_⟩
  · rw [lt_sub_iff_add_lt]
    exact_mod_cast low
  · rw [sub_le_iff_le_add]
    exact_mod_cast middle
  · rw [← mul_lt_mul_iff_left₀ two_pos, add_mul, div_mul_cancel₀ _ two_ne_zero]
    exact_mod_cast high

/-- Integers of up to 300 digits are far from the largest number. -/
theorem nearestFloat_lt_limit {n : ℕ} (short : (naturalText n).length ≤ 300) :
    nearestFloat n < 2 ^ 1024 := by
  rcases Nat.eq_zero_or_pos n with rfl | filled
  · rw [Nat.cast_zero, nearestFloat_zero]
    positivity
  · have positive : (0 : ℚ) < n := by exact_mod_cast filled
    have bound : n < tenTo 300 := (length_naturalText_le_iff (by decide)).mp short
    have below : (n : ℚ) < 10 ^ (300 : ℤ) := by
      rw [tenTo_eq] at bound
      rw [zpow_ofNat]
      exact_mod_cast bound
    have room : (10 : ℚ) ^ (300 : ℤ) ≤ 179769313486231 * 10 ^ (294 : ℤ) := by
      rw [← ten_pow_mul_zpow 6 (show (294 : ℤ) + 6 = 300 from rfl)]
      exact mul_le_mul_of_nonneg_right (by norm_num) (ten_zpow_pos _).le
    rw [← not_le, overflow_iff positive, not_le]
    exact (below.trans_le room).trans limit_bounds.2.1

section
variable {x : ℚ} (positive : 0 < x) (past : 2 ^ 1024 ≤ nearestFloat (nearestDecimal x))
include positive past

theorem limit_le_nearestDecimal : 2 ^ 1024 - 2 ^ 970 ≤ nearestDecimal x := by
  obtain ⟨digits, k, significant, -⟩ := exists_isSignificant positive
  exact (overflow_iff significant.pos).mp past

variable (finite : x < 2 ^ 1024)
include finite

theorem digitExponent_of_overflow : digitExponent x = 294 := by
  obtain ⟨top, low, -, -⟩ := limit_bounds
  have reached := low.trans_le (limit_le_nearestDecimal positive past)
  have unit := ten_zpow_pos 294
  have below : Int.log 10 x < 309 := by
    apply (Int.lt_zpow_iff_log_lt (by decide) positive).mp
    rw [Nat.cast_ofNat]
    exact finite.trans top
  have coarse : (10 : ℚ) ^ digitExponent x ≤ 10 ^ (294 : ℤ) := by
    apply zpow_le_zpow_right₀ (by norm_num)
    unfold digitExponent
    omega
  have close : |nearestDecimal x - x| ≤ 10 ^ digitExponent x / 2 :=
    abs_roundTo_sub_le (ten_zpow_pos _) x
  have bounds := abs_le.mp close
  have above : 308 ≤ Int.log 10 x := by
    apply (Int.zpow_le_iff_le_log (by decide) positive).mp
    rw [Nat.cast_ofNat, ← ten_pow_mul_zpow 14 (show (294 : ℤ) + 14 = 308 from rfl)]
    generalize (10 : ℚ) ^ (294 : ℤ) = place at *
    linarith only [bounds.2, coarse, reached, unit]
  unfold digitExponent
  omega

/-- Only one row of digits is past the largest number. -/
theorem digits_of_overflow : IsSignificant 179769313486232 308 (nearestDecimal x) := by
  obtain ⟨-, low, -, high⟩ := limit_bounds
  have reached := low.trans_le (limit_le_nearestDecimal positive past)
  have bounded := (add_lt_add_left finite (10 ^ (294 : ℤ) / 2)).trans high
  have unit := ten_zpow_pos 294
  have close : |nearestDecimal x - x| ≤ 10 ^ digitExponent x / 2 :=
    abs_roundTo_sub_le (ten_zpow_pos _) x
  obtain ⟨-, -, value⟩ := nearest_digits positive (isNearest_roundEven _)
  rw [digitExponent_of_overflow positive past finite] at value close
  generalize roundEven (x / 10 ^ (294 : ℤ)) = n at value
  have least : (179769313486231 : ℚ) < n := by
    rw [← mul_lt_mul_iff_left₀ unit, value]
    exact reached
  have most : (n : ℚ) < 179769313486233 := by
    rw [← mul_lt_mul_iff_left₀ unit, value]
    linarith only [(abs_le.mp close).2, bounded]
  have exactly : n = 179769313486232 := by
    have least' : 179769313486231 < n := by exact_mod_cast least
    have most' : n < 179769313486233 := by exact_mod_cast most
    omega
  refine ⟨by decide, by decide, ?_⟩
  rw [← value, exactly]
  rfl

end

/-! ## Texts that are read again -/

/-- The text that is written below the limit of floating point and read as a number past it. -/
def overflowText : Text := "1.79769313486232e+308".toList

theorem naturalText_ne_overflowText (n : ℕ) : naturalText n ≠ overflowText := by
  intro text
  have letter : 'e' ∈ naturalText n := by
    rw [text]
    decide
  exact absurd (isDigit_of_mem_naturalText letter) (by decide)

section
variable {x : ℚ} (positive : 0 < x) (finite : x < 2 ^ 1024) {digits : ℕ} {k : ℤ}
  (significant : IsSignificant digits k (nearestDecimal x))
include positive finite significant

/-- Digits are past the largest number in one text only. -/
theorem overflow_iff_overflowText : 2 ^ 1024 ≤ nearestFloat (nearestDecimal x) ↔
    digitsText (naturalText digits) k = overflowText := by
  constructor
  · intro past
    obtain ⟨rfl, rfl⟩ := significant.unique (digits_of_overflow positive past finite)
    decide
  · intro text
    have known : Decimal.read? overflowText = some ⟨false, 179769313486232, 294⟩ := by decide
    have value : nearestDecimal x = 179769313486232 * 10 ^ (294 : ℤ) := by
      rcases text ▸ standsFor_digitsText significant with ⟨n, -, -, other⟩ | ⟨-, d, read, -, same⟩
      · exact absurd other.symm (naturalText_ne_overflowText n)
      · rw [known] at read
        obtain rfl := Option.some.inj read
        rw [← same]
        rfl
    rw [overflow_iff significant.pos, value]
    exact limit_bounds.2.2.1

/-- Digits are written again as they are read. -/
theorem eq_of_isWritten_nearestDecimal {n : ℤ} (multiple : x = n * 2 ^ (-1074 : ℤ)) {text : Text}
    (h : IsWritten false (nearestFloat (nearestDecimal x)) text) :
    text = if digitsText (naturalText digits) k = overflowText then "inf".toList
      else digitsText (naturalText digits) k := by
  have kept := nearestDecimal_nearestFloat positive multiple
  have overflow := overflow_iff_overflowText positive finite significant
  cases h with
  | zero nothing =>
    have none : nearestDecimal 0 = 0 := by
      apply roundTo_multiple (ten_zpow_pos _) (n := 0)
      simp
    rw [nothing, none] at kept
    exact absurd kept significant.pos.ne
  | finite _ bounded again =>
    rw [kept] at again
    obtain ⟨rfl, rfl⟩ := significant.unique again
    rw [if_neg fun text => not_le.mpr bounded (overflow.mpr text)]
    rfl
  | infinity past => exact (if_pos (overflow.mp past)).symm

end

end MacroShell
