import MacroShell.Proofs.Number.Packing

/-!
# Arithmetic on floating-point numbers

Sums, differences, products and quotients of finite numbers are computed exactly and rounded once.
The result is infinite where the exact one is rounded past the largest number.
-/

namespace MacroShell

open Float.Model Float.Model.UnpackedFloat

/-! ## Numbers that rounding keeps -/

theorem unit_pos (q : ℚ) : (0 : ℚ) < 2 ^ unitExponent q := zpow_pos two_pos _

theorem nearestFloat_zero : nearestFloat 0 = 0 := by
  rw [nearestFloat, roundTo, zero_div]
  have zero : roundEven 0 = 0 := roundEven_intCast 0
  rw [zero, Int.cast_zero, zero_mul]

/-- A multiple of its last place is kept. -/
theorem nearestFloat_multiple {q : ℚ} {n e : ℤ} (h : q = n * 2 ^ e) (fine : unitExponent q ≤ e) :
    nearestFloat q = q := by
  obtain ⟨k, sum⟩ := Int.le.dest fine
  apply roundTo_multiple (unit_pos q) (n := n * 2 ^ k)
  rw [Int.cast_mul, Int.cast_pow, Int.cast_two, mul_assoc, ← zpow_natCast, ← zpow_add₀ two_ne_zero,
    add_comm, sum]
  exact h

/-- What is in canonical form is kept. -/
theorem IsCanonical.nearestFloat_eq {m : ℕ} {e : ℤ} (h : IsCanonical m e) (pos : 0 < m) :
    nearestFloat (m * 2 ^ e) = m * 2 ^ e := by
  apply nearestFloat_multiple (n := m) (e := e) (by rw [Int.cast_natCast])
  have below : (m : ℚ) < 2 ^ 53 := by exact_mod_cast h.below
  have log : Int.log 2 ((m : ℚ) * 2 ^ e) < 53 + e := by
    apply (Int.lt_zpow_iff_log_lt one_lt_two (by positivity)).mp
    rw [Nat.cast_two, zpow_add₀ two_ne_zero]
    gcongr
    exact_mod_cast below
  have least := h.least
  unfold unitExponent
  omega

/-! ## Rounding exact results -/

theorem le_log_of_le {m k : ℕ} {e : ℤ} (h : 2 ^ k ≤ m) : k + e ≤ Int.log 2 ((m : ℚ) * 2 ^ e) := by
  have places : (2 : ℚ) ^ k ≤ m := by exact_mod_cast h
  have positive : (0 : ℚ) < m := lt_of_lt_of_le (by positivity) places
  apply (Int.zpow_le_iff_le_log one_lt_two (by positivity)).mp
  rw [Nat.cast_two, zpow_add₀ two_ne_zero, zpow_natCast]
  gcongr

/-- An integer at any exponent is rounded. -/
theorem isRounded_round (s : Sign) {m : ℕ} (e : ℤ) (pos : 0 < m) :
    IsRounded s (m * 2 ^ e) (UnpackedFloat.round Format.binary64 s m e) := by
  simp only [UnpackedFloat.round, decreaseExponent, targetExponent_eq]
  generalize shift : (e - max (m.log2 + e - 52) (-1074)).toNat = n
  apply isRounded_roundWithAccuracy s (by positivity)
  · have whole : (m : ℚ) * 2 ^ e / 2 ^ (e - n) = (m <<< n : ℕ) := by
      rw [zpow_sub₀ two_ne_zero, zpow_natCast, Nat.shiftLeft_eq]
      push_cast
      field_simp
    rw [whole]
    exact .exact _
  · have log : m.log2 + e ≤ Int.log 2 ((m : ℚ) * 2 ^ e) := le_log_of_le (Nat.log2_self_le pos.ne')
    unfold unitExponent
    omega

section
variable {m₁ m₂ : ℕ} {e₁ e₂ : ℤ} (pos₁ : 0 < m₁) (pos₂ : 0 < m₂)
include pos₁ pos₂

theorem isRounded_product (s : Sign)
    (fine : e₁ + e₂ ≤ unitExponent ((m₁ : ℚ) * 2 ^ e₁ * (m₂ * 2 ^ e₂))) :
    IsRounded s ((m₁ : ℚ) * 2 ^ e₁ * (m₂ * 2 ^ e₂))
      (roundWithAccuracy Format.binary64 s (m₁ * m₂) (e₁ + e₂) .exact) := by
  have places : (0 : ℚ) < m₁ * 2 ^ e₁ * (m₂ * 2 ^ e₂) := by positivity
  refine isRounded_roundWithAccuracy s places ?_ fine
  have whole : (m₁ : ℚ) * 2 ^ e₁ * (m₂ * 2 ^ e₂) / 2 ^ (e₁ + e₂) = (m₁ * m₂ : ℕ) := by
    rw [zpow_add₀ two_ne_zero, Nat.cast_mul]
    field_simp
  rw [whole]
  exact .exact _

/-- A product has places enough, unless both exponents are the least one. -/
theorem le_unitExponent_product (canonical₁ : IsCanonical m₁ e₁) (canonical₂ : IsCanonical m₂ e₂) :
    e₁ + e₂ ≤ unitExponent ((m₁ : ℚ) * 2 ^ e₁ * (m₂ * 2 ^ e₂)) := by
  have least := least_le_unitExponent ((m₁ : ℚ) * 2 ^ e₁ * (m₂ * 2 ^ e₂))
  by_cases normal : -1074 < e₁ ∨ -1074 < e₂
  · have places : 2 ^ 52 ≤ m₁ * m₂ := by
      rcases normal with first | second
      · exact (canonical₁.full first).trans (Nat.le_mul_of_pos_right m₁ pos₂)
      · exact (canonical₂.full second).trans (Nat.le_mul_of_pos_left m₂ pos₁)
    have same : (m₁ : ℚ) * 2 ^ e₁ * (m₂ * 2 ^ e₂) = (m₁ * m₂ : ℕ) * 2 ^ (e₁ + e₂) := by
      rw [zpow_add₀ two_ne_zero, Nat.cast_mul]
      ring
    have log := @le_log_of_le _ _ (e₁ + e₂) places
    rw [same]
    unfold unitExponent
    omega
  · omega

/-- The places of a quotient, up to one. -/
theorem le_log_quotient :
    (m₁.log2 + e₁) - (m₂.log2 + e₂) - 1 ≤ Int.log 2 ((m₁ : ℚ) * 2 ^ e₁ / (m₂ * 2 ^ e₂)) := by
  have low : (2 : ℚ) ^ (m₁.log2 : ℤ) ≤ m₁ := by
    rw [zpow_natCast]
    exact_mod_cast Nat.log2_self_le pos₁.ne'
  have high : (m₂ : ℚ) ≤ 2 ^ ((m₂.log2 : ℤ) + 1) := by
    have below : m₂ < 2 ^ (m₂.log2 + 1) := Nat.lt_log2_self
    exact_mod_cast below.le
  apply (Int.zpow_le_iff_le_log one_lt_two (by positivity)).mp
  rw [Nat.cast_two, le_div_iff₀ (by positivity)]
  calc (2 : ℚ) ^ ((m₁.log2 + e₁) - (m₂.log2 + e₂) - 1) * (m₂ * 2 ^ e₂)
      ≤ 2 ^ ((m₁.log2 + e₁) - (m₂.log2 + e₂) - 1) * (2 ^ ((m₂.log2 : ℤ) + 1) * 2 ^ e₂) := by gcongr
    _ = 2 ^ (m₁.log2 : ℤ) * 2 ^ e₁ := by
      rw [← zpow_add₀ two_ne_zero, ← zpow_add₀ two_ne_zero, ← zpow_add₀ two_ne_zero]
      congr 1
      ring
    _ ≤ m₁ * 2 ^ e₁ := by gcongr

theorem isRounded_quotient (s : Sign) :
    IsRounded s ((m₁ : ℚ) * 2 ^ e₁ / (m₂ * 2 ^ e₂))
      (roundWithAccuracy Format.binary64 s (divCore Format.binary64 m₁ e₁ m₂ e₂).1
        (divCore Format.binary64 m₁ e₁ m₂ e₂).2.1 (divCore Format.binary64 m₁ e₁ m₂ e₂).2.2) := by
  have log := @le_log_quotient m₁ m₂ e₁ e₂ pos₁ pos₂
  have target : Format.binary64.targetExponent (totalExponent m₁ e₁ - totalExponent m₂ e₂) =
      max ((m₁.log2 + e₁) - (m₂.log2 + e₂) - 53) (-1074) := by
    have format : Format.binary64.mantissaBits = 53 ∧ Format.binary64.minExponent = -1074 := by
      decide
    rw [Format.targetExponent, totalExponent, totalExponent, format.1, format.2]
    congr 1
    push_cast
    ring
  simp only [divCore, target]
  generalize last : min (e₁ - e₂) (max ((m₁.log2 + e₁) - (m₂.log2 + e₂) - 53) (-1074)) = t
  have fine : t ≤ unitExponent ((m₁ : ℚ) * 2 ^ e₁ / (m₂ * 2 ^ e₂)) := by
    unfold unitExponent
    omega
  obtain ⟨n, amount⟩ : ∃ n : ℕ, e₁ - e₂ - t = n := ⟨(e₁ - e₂ - t).toNat, by omega⟩
  have whole : (m₁ : ℚ) * 2 ^ e₁ / (m₂ * 2 ^ e₂) / 2 ^ t = (m₁ <<< n : ℕ) / m₂ := by
    have power : (2 : ℚ) ^ e₁ = 2 ^ n * 2 ^ e₂ * 2 ^ t := by
      rw [← zpow_natCast, ← zpow_add₀ two_ne_zero, ← zpow_add₀ two_ne_zero]
      congr 1
      omega
    rw [Nat.shiftLeft_eq, power]
    push_cast
    field_simp
  have shift : (e₁ - e₂ - t).toNat = n := by omega
  rw [shift]
  apply isRounded_roundWithAccuracy s (by positivity) _ fine
  rw [whole]
  exact .quotient _ pos₂

end

/-! ## Products and quotients -/

theorem signOf_mul (b c : Bool) : signOf b * signOf c = signOf (b ^^ c) := by
  cases b <;> cases c <;> rfl

theorem signOf_div (b c : Bool) : signOf b / signOf c = signOf (b ^^ c) := by
  cases b <;> cases c <;> rfl

section
variable {b c : Bool} {q r : ℚ} {x y : Float} (hx : IsFloat b q x) (hy : IsFloat c r y)
  (finite_q : q < 2 ^ 1024) (finite_r : r < 2 ^ 1024)
include hx hy finite_q finite_r

/-- The product of two numbers is rounded once. -/
theorem isFloat_mul : IsFloat (b ^^ c) (nearestFloat (q * r)) (x * y) := by
  change IsFloat _ _ (packed (UnpackedFloat.mul Format.binary64 x.toModel.unpack y.toModel.unpack))
  apply IsRounded.isFloat_packed
  unfold IsFloat at hx hy
  generalize x.toModel.unpack = u at *
  generalize y.toModel.unpack = v at *
  rw [← signOf_mul]
  cases hx with
  | infinity past => exact absurd past (not_le.mpr finite_q)
  | zero nothing =>
    rw [nothing, zero_mul]
    cases hy with
    | infinity past => exact absurd past (not_le.mpr finite_r)
    | zero | finite => exact Or.inl ⟨nearestFloat_zero, rfl⟩
  | finite pos₁ canonical₁ top₁ value₁ =>
    cases hy with
    | infinity past => exact absurd past (not_le.mpr finite_r)
    | zero nothing =>
      rw [nothing, mul_zero]
      exact Or.inl ⟨nearestFloat_zero, rfl⟩
    | finite pos₂ canonical₂ top₂ value₂ =>
      rw [← value₁, ← value₂]
      exact isRounded_product pos₁ pos₂ _ (le_unitExponent_product pos₁ pos₂ canonical₁ canonical₂)

/-- The quotient of two numbers is rounded once. -/
theorem isFloat_div (nonzero : r ≠ 0) : IsFloat (b ^^ c) (nearestFloat (q / r)) (x / y) := by
  change IsFloat _ _ (packed (UnpackedFloat.div Format.binary64 x.toModel.unpack y.toModel.unpack))
  apply IsRounded.isFloat_packed
  unfold IsFloat at hx hy
  generalize x.toModel.unpack = u at *
  generalize y.toModel.unpack = v at *
  rw [← signOf_div]
  cases hy with
  | infinity past => exact absurd past (not_le.mpr finite_r)
  | zero nothing => exact absurd nothing nonzero
  | finite pos₂ canonical₂ top₂ value₂ =>
    cases hx with
    | infinity past => exact absurd past (not_le.mpr finite_q)
    | zero nothing =>
      rw [nothing, zero_div]
      exact Or.inl ⟨nearestFloat_zero, rfl⟩
    | finite pos₁ canonical₁ top₁ value₁ =>
      rw [← value₁, ← value₂]
      exact isRounded_quotient pos₁ pos₂ _

end

/-! ## Sums -/

def withSign (negative : Bool) (r : ℚ) : ℚ := if negative then -r else r

theorem withSign_zero (b : Bool) : withSign b 0 = 0 := by
  cases b
  · rfl
  · exact neg_zero

theorem withSign_not (b : Bool) (r : ℚ) : withSign (!b) r = -withSign b r := by
  cases b
  · rfl
  · exact (neg_neg r).symm

theorem withSign_mul (b c : Bool) (q r : ℚ) :
    withSign (b ^^ c) (q * r) = withSign b q * withSign c r := by
  cases b <;> cases c <;> simp [withSign]

theorem withSign_div (b c : Bool) (q r : ℚ) :
    withSign (b ^^ c) (q / r) = withSign b q / withSign c r := by
  cases b <;> cases c <;> simp [withSign, neg_div, div_neg]

theorem abs_withSign (b : Bool) {r : ℚ} (h : 0 ≤ r) : |withSign b r| = r := by
  cases b
  · exact abs_of_nonneg h
  · exact (abs_neg r).trans (abs_of_nonneg h)

/-- What a number of either sign is rounded to before the largest number is taken into account. -/
def RoundsTo (q : ℚ) (u : UnpackedFloat) : Prop :=
  ∃ negative r, 0 ≤ r ∧ withSign negative r = q ∧ IsRounded (signOf negative) r u

theorem roundsTo_zero (s : Sign) : RoundsTo 0 (.zero s) := by
  refine ⟨s == .negative, 0, le_refl 0, withSign_zero _, Or.inl ⟨nearestFloat_zero, ?_⟩⟩
  cases s <;> rfl

/-- A number in floating point is rounded already. -/
theorem Denotes.roundsTo {b : Bool} {q : ℚ} {u : UnpackedFloat} (h : Denotes b q u)
    (finite_q : q < 2 ^ 1024) : RoundsTo (withSign b q) u := by
  cases h with
  | infinity past => exact absurd past (not_le.mpr finite_q)
  | zero nothing =>
    rw [nothing, withSign_zero]
    exact roundsTo_zero _
  | finite pos canonical top value =>
    rw [← value]
    refine ⟨b, _, by positivity, rfl, Or.inr ⟨_, _, pos, rfl, canonical, ?_⟩⟩
    exact (canonical.nearestFloat_eq pos).symm

/-- An integer of either sign at any exponent is rounded. -/
theorem roundsTo_normalize (n e : ℤ) (s : Sign) :
    RoundsTo (n * 2 ^ e) (normalize Format.binary64 n e s) := by
  unfold UnpackedFloat.normalize
  cases order : compare n 0 with
  | lt =>
    have less := Int.compare_eq_lt.mp order
    obtain ⟨m, rfl⟩ : ∃ m : ℕ, n = -m := ⟨(-n).toNat, by omega⟩
    refine ⟨true, m * 2 ^ e, by positivity, ?_, ?_⟩
    · rw [withSign, if_pos rfl, Int.cast_neg, Int.cast_natCast, neg_mul]
    · rw [neg_neg, Int.toNat_natCast]
      exact isRounded_round .negative e (by omega)
  | eq =>
    rw [Int.compare_eq_eq.mp order, Int.cast_zero, zero_mul]
    exact roundsTo_zero s
  | gt =>
    have more := Int.compare_eq_gt.mp order
    obtain ⟨m, rfl⟩ : ∃ m : ℕ, n = m := ⟨n.toNat, by omega⟩
    refine ⟨false, m * 2 ^ e, by positivity, ?_, ?_⟩
    · rw [withSign, if_neg Bool.false_ne_true, Int.cast_natCast]
    · rw [Int.toNat_natCast]
      exact isRounded_round .positive e (by omega)

/-- A number is the same at a smaller exponent. -/
theorem apply_decreaseExponent (b : Bool) (m : ℕ) {e t : ℤ} (h : t ≤ e) :
    ((signOf b).apply (decreaseExponent m e t).1 : ℚ) * 2 ^ t = withSign b (m * 2 ^ e) := by
  obtain ⟨n, rfl⟩ := Int.le.dest h
  have shift : (t + n - t).toNat = n := by omega
  rw [decreaseExponent, shift, Nat.shiftLeft_eq, zpow_add₀ two_ne_zero, zpow_natCast]
  cases b <;> simp only [signOf, Sign.apply, withSign] <;> push_cast <;> ring

theorem Denotes.add {b c : Bool} {q r : ℚ} {u v : UnpackedFloat} (hu : Denotes b q u)
    (hv : Denotes c r v) (finite_q : q < 2 ^ 1024) (finite_r : r < 2 ^ 1024) :
    RoundsTo (withSign b q + withSign c r) (UnpackedFloat.add Format.binary64 u v) := by
  have left := hu.roundsTo finite_q
  have right := hv.roundsTo finite_r
  cases hu with
  | infinity past => exact absurd past (not_le.mpr finite_q)
  | zero nothing₁ =>
    rw [nothing₁, withSign_zero, zero_add]
    cases hv with
    | infinity past => exact absurd past (not_le.mpr finite_r)
    | zero nothing₂ =>
      rw [nothing₂, withSign_zero, UnpackedFloat.add]
      split <;> exact roundsTo_zero _
    | finite => exact right
  | @finite m₁ e₁ pos₁ canonical₁ top₁ value₁ =>
    cases hv with
    | infinity past => exact absurd past (not_le.mpr finite_r)
    | zero nothing₂ =>
      rw [nothing₂, withSign_zero, add_zero]
      exact left
    | @finite m₂ e₂ pos₂ canonical₂ top₂ value₂ =>
      have rounded := roundsTo_normalize
        ((signOf b).apply (decreaseExponent m₁ e₁ (min e₁ e₂)).1 +
          (signOf c).apply (decreaseExponent m₂ e₂ (min e₁ e₂)).1) (min e₁ e₂) .positive
      rw [Int.cast_add, add_mul, apply_decreaseExponent b m₁ (min_le_left e₁ e₂),
        apply_decreaseExponent c m₂ (min_le_right e₁ e₂), value₁, value₂] at rounded
      exact rounded

theorem apply_neg (s : Sign) (n : ℤ) : (-s).apply n = -s.apply n := by
  cases s
  · exact (neg_neg n).symm
  · rfl

theorem sub_eq_add (u v : UnpackedFloat) :
    UnpackedFloat.sub Format.binary64 u v = UnpackedFloat.add Format.binary64 u v.neg := by
  cases v with
  | infinity | notANumber | zero => cases u <;> rfl
  | finite s m e pos =>
    cases u with
    | infinity | notANumber | zero => rfl
    | finite =>
      simp only [UnpackedFloat.sub, UnpackedFloat.neg, UnpackedFloat.add, apply_neg, sub_eq_add_neg]

/-! ## Exact values and nearest numbers -/

def Dyadic.value (d : Dyadic) : ℚ := withSign d.negative (d.significand * 2 ^ d.exponent)

def rational? (x : Float) : Option ℚ := (Dyadic.ofFloat? x).map Dyadic.value

/-- A number in floating point is what a rational number is rounded to; it is infinite past the
largest number. -/
def IsNearestFloat (q : ℚ) (x : Float) : Prop :=
  ∃ negative r, 0 ≤ r ∧ withSign negative r = q ∧ IsFloat negative (nearestFloat r) x

/-- The significand and the exponent that a number is taken apart into. -/
theorem ofFloat?_canonical {x : Float} {d : Dyadic} (h : Dyadic.ofFloat? x = some d) :
    IsCanonical d.significand d.exponent ∧ d.exponent ≤ 971 := by
  have powers : twoTo 52 = 2 ^ 52 ∧ twoTo 11 = 2 ^ 11 := ⟨rfl, rfl⟩
  have fraction : x.toBits.toNat % 2 ^ 52 < 2 ^ 52 := Nat.mod_lt _ (by decide)
  have field : x.toBits.toNat / 2 ^ 52 % 2 ^ 11 < 2 ^ 11 := Nat.mod_lt _ (by decide)
  simp only [Dyadic.ofFloat?, powers] at h
  generalize x.toBits.toNat / 2 ^ 52 % 2 ^ 11 = e at *
  generalize x.toBits.toNat % 2 ^ 52 = m at *
  split at h
  · cases h
  split at h <;> cases h
  · exact ⟨⟨by simp only; omega, le_refl _, fun normal => absurd normal (lt_irrefl _)⟩,
      by simp only; omega⟩
  · simp only [Int.ofNat_eq_natCast]
    exact ⟨⟨by omega, by omega, fun _ => Nat.le_add_right _ _⟩, by omega⟩

theorem exists_isFloat {x : Float} {q : ℚ} (h : rational? x = some q) :
    ∃ negative r, withSign negative r = q ∧ IsFloat negative r x ∧ r < 2 ^ 1024 := by
  obtain ⟨d, known, rfl⟩ := Option.map_eq_some_iff.mp h
  obtain ⟨canonical, top⟩ := ofFloat?_canonical known
  refine ⟨d.negative, _, rfl, ?_, canonical.lt_limit top⟩
  rw [ofFloat?_eq] at known
  unfold IsFloat
  generalize x.toModel.unpack = u at *
  cases u with
  | infinity | notANumber => cases known
  | zero s =>
    cases known
    cases s <;> exact .zero (by rw [Nat.cast_zero, zero_mul])
  | finite s m e pos =>
    cases known
    cases s <;> exact .finite pos canonical top rfl

theorem RoundsTo.isNearestFloat {q : ℚ} {u : UnpackedFloat} (h : RoundsTo q u) :
    IsNearestFloat q (packed u) := by
  obtain ⟨negative, r, least, value, rounded⟩ := h
  exact ⟨negative, r, least, value, rounded.isFloat_packed⟩

section
variable {x y : Float} {p q : ℚ} (hx : rational? x = some p) (hy : rational? y = some q)
include hx hy

theorem isNearestFloat_add : IsNearestFloat (p + q) (x + y) := by
  obtain ⟨b, r, rfl, left, finite_r⟩ := exists_isFloat hx
  obtain ⟨c, t, rfl, right, finite_t⟩ := exists_isFloat hy
  exact (Denotes.add left right finite_r finite_t).isNearestFloat

theorem isNearestFloat_sub : IsNearestFloat (p - q) (x - y) := by
  obtain ⟨b, r, rfl, left, finite_r⟩ := exists_isFloat hx
  obtain ⟨c, t, rfl, right, finite_t⟩ := exists_isFloat hy
  have sum := Denotes.add left (Denotes.neg right) finite_r finite_t
  rw [← sub_eq_add, withSign_not, ← sub_eq_add_neg] at sum
  exact sum.isNearestFloat

theorem isNearestFloat_mul : IsNearestFloat (p * q) (x * y) := by
  obtain ⟨b, r, rfl, left, finite_r⟩ := exists_isFloat hx
  obtain ⟨c, t, rfl, right, finite_t⟩ := exists_isFloat hy
  exact ⟨b ^^ c, r * t, mul_nonneg left.nonneg right.nonneg, withSign_mul b c r t,
    isFloat_mul left right finite_r finite_t⟩

theorem isNearestFloat_div (nonzero : q ≠ 0) : IsNearestFloat (p / q) (x / y) := by
  obtain ⟨b, r, rfl, left, finite_r⟩ := exists_isFloat hx
  obtain ⟨c, t, rfl, right, finite_t⟩ := exists_isFloat hy
  have divisor : t ≠ 0 := by
    rintro rfl
    exact nonzero (withSign_zero c)
  exact ⟨b ^^ c, r / t, div_nonneg left.nonneg right.nonneg, withSign_div b c r t,
    isFloat_div left right finite_r finite_t divisor⟩

end

theorem isFinite_iff {x : Float} : x.isFinite = true ↔ ∃ q, rational? x = some q := by
  rw [isFinite_eq, ← Option.isSome_iff_exists, rational?, Option.isSome_map]

theorem IsFloat.isFinite_iff {negative : Bool} {r : ℚ} {x : Float} (h : IsFloat negative r x) :
    x.isFinite = true ↔ r < 2 ^ 1024 := by
  have known : x.isFinite = x.toModel.unpack.isFinite := rfl
  unfold IsFloat at h
  rw [known]
  generalize x.toModel.unpack = u at h
  cases h with
  | zero nothing =>
    rw [nothing]
    exact iff_of_true rfl (by positivity)
  | finite pos canonical top value =>
    rw [← value]
    exact iff_of_true rfl (canonical.lt_limit top)
  | infinity past => exact iff_of_false Bool.false_ne_true (not_lt.mpr past)

theorem IsFloat.isInf_eq {negative : Bool} {r : ℚ} {x : Float} (h : IsFloat negative r x) :
    x.isInf = !x.isFinite := by
  have finite : x.isFinite = x.toModel.unpack.isFinite := rfl
  have infinite : x.isInf = x.toModel.unpack.isInf := rfl
  unfold IsFloat at h
  rw [finite, infinite]
  generalize x.toModel.unpack = u at h
  cases h <;> rfl

end MacroShell
