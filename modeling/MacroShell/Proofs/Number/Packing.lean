import MacroShell.Number.Dyadic
import MacroShell.Proofs.Number.Binary64

/-!
# Floating-point numbers and their values

A number in floating point stands for a sign and a magnitude: zero, a magnitude in canonical form
below the largest exponent, or infinity for all that is larger.
-/

namespace MacroShell

open Float.Model Float.Model.UnpackedFloat

/-! ## Packing and unpacking -/

theorem unpackSign_packComponents (s : Sign) (exponent : BitVec 11) (fraction : BitVec 52) :
    Sign.ofBitVec (unpackSign (packComponents Format.binary64 s exponent fraction)) = s := by
  have bit : unpackSign (packComponents Format.binary64 s exponent fraction) = s.toBitVec := by
    change (s.toBitVec ++ exponent ++ fraction).extractLsb' 63 1 = s.toBitVec
    rw [BitVec.extractLsb'_append_eq_of_le (by decide),
      BitVec.extractLsb'_append_eq_of_le (by decide)]
    cases s <;> rfl
  rw [bit]
  cases s <;> rfl

theorem unpack_packedInfinity (s : Sign) :
    UnpackedFloat.unpack Format.binary64 (packedInfinity Format.binary64 s) = .infinity s := by
  unfold UnpackedFloat.unpack packedInfinity
  simp only [unpackExponent_packComponents, unpackMantissa_packComponents,
    unpackSign_packComponents]
  rfl

theorem unpack_packedZero (s : Sign) :
    UnpackedFloat.unpack Format.binary64 (packedZero Format.binary64 s) = .zero s := by
  unfold UnpackedFloat.unpack packedZero
  simp only [unpackExponent_packComponents, unpackMantissa_packComponents,
    unpackSign_packComponents]
  rfl

theorem finite_congr {s : Sign} {m m' : ℕ} {e e' : ℤ} {pos : 0 < m} {pos' : 0 < m'} (hm : m = m')
    (he : e = e') : UnpackedFloat.finite s m e pos = .finite s m' e' pos' := by
  subst hm he
  rfl

theorem format_eq : Format.binary64.exponentBias = 1023 ∧ Format.binary64.mantissaBits = 53 := by
  decide

theorem unpack_normal (s : Sign) {exponent : BitVec 11} (fraction : BitVec 52)
    (nonzero : exponent ≠ 0#_) (bounded : exponent ≠ -1#_) :
    UnpackedFloat.unpack Format.binary64 (packComponents Format.binary64 s exponent fraction) =
      .finite s (2 ^ 52 + fraction.toNat) (exponent.toNat - 1075) (by omega) := by
  simp only [UnpackedFloat.unpack, unpackExponent_packComponents, unpackMantissa_packComponents,
    unpackSign_packComponents]
  rw [if_neg bounded, if_neg nonzero]
  apply finite_congr
  · rw [BitVec.toNat_append, ← Nat.shiftLeft_add_eq_or_of_lt fraction.isLt]
    rfl
  · rw [format_eq.1]
    omega

theorem unpack_subnormal (s : Sign) {fraction : BitVec 52} (filled : 0 < fraction.toNat) :
    UnpackedFloat.unpack Format.binary64 (packComponents Format.binary64 s 0#_ fraction) =
      .finite s fraction.toNat (-1074) filled := by
  have nonzero : fraction ≠ 0#_ := by
    rintro rfl
    cases filled
  simp only [UnpackedFloat.unpack, unpackExponent_packComponents, unpackMantissa_packComponents,
    unpackSign_packComponents]
  rw [if_neg (by decide), if_pos trivial, dif_neg nonzero]
  exact finite_congr rfl rfl

section
variable (s : Sign) {m : ℕ} {e : ℤ} (pos : 0 < m)

theorem unpack_pack_finite (canonical : IsCanonical m e) (top : e ≤ 971) :
    UnpackedFloat.unpack Format.binary64 (UnpackedFloat.pack Format.binary64 (.finite s m e pos)) =
      .finite s m e pos := by
  obtain ⟨below, least, full⟩ := canonical
  obtain ⟨bias, places⟩ := format_eq
  have log : m.log2 + 1 = 53 ↔ 2 ^ 52 ≤ m := by
    rw [← Nat.le_log2 pos.ne']
    have fits := (Nat.log2_lt pos.ne').mpr below
    omega
  simp only [UnpackedFloat.pack, places, bias]
  rw [if_neg (by omega)]
  by_cases normal : 2 ^ 52 ≤ m
  · have ends : (0#11).toNat = 0 ∧ (-1#11).toNat = 2047 := by decide
    rw [if_pos (log.mpr normal)]
    refine (unpack_normal s _ ?_ ?_).trans (finite_congr ?_ ?_)
    · intro zero
      have value := congrArg BitVec.toNat zero
      rw [BitVec.toNat_ofNat, ends.1] at value
      omega
    · intro last
      have value := congrArg BitVec.toNat last
      rw [BitVec.toNat_ofNat, ends.2] at value
      omega
    · rw [BitVec.toNat_ofNat]
      omega
    · rw [BitVec.toNat_ofNat]
      omega
  · have fraction : (BitVec.ofNat 52 m).toNat = m := by
      rw [BitVec.toNat_ofNat]
      omega
    rw [if_neg fun full => normal (log.mp full)]
    exact (unpack_subnormal s (by rwa [fraction])).trans (finite_congr fraction (by omega))

theorem unpack_pack_overflow (past : 971 < e) :
    UnpackedFloat.unpack Format.binary64 (UnpackedFloat.pack Format.binary64 (.finite s m e pos)) =
      .infinity s := by
  obtain ⟨bias, places⟩ := format_eq
  simp only [UnpackedFloat.pack, places, bias]
  rw [if_pos (by omega)]
  exact unpack_packedInfinity s

end

/-! ## Signs and magnitudes -/

/-- The sign of a floating-point number; true is minus. -/
def signOf (negative : Bool) : Sign := if negative then .negative else .positive

/-- What stands for a sign and a magnitude. -/
inductive Denotes (negative : Bool) (r : ℚ) : UnpackedFloat → Prop
  | zero (nothing : r = 0) : Denotes negative r (.zero (signOf negative))
  | finite {m : ℕ} {e : ℤ} (pos : 0 < m) (canonical : IsCanonical m e) (top : e ≤ 971)
      (value : (m : ℚ) * 2 ^ e = r) : Denotes negative r (.finite (signOf negative) m e pos)
  | infinity (past : 2 ^ 1024 ≤ r) : Denotes negative r (.infinity (signOf negative))

/-- No number with its sign and places reaches past the largest one. -/
theorem IsCanonical.lt_limit {m : ℕ} {e : ℤ} (h : IsCanonical m e) (top : e ≤ 971) :
    (m : ℚ) * 2 ^ e < 2 ^ 1024 := by
  have below : (m : ℚ) < 2 ^ 53 := by exact_mod_cast h.below
  have unit : (2 : ℚ) ^ e ≤ 2 ^ 971 := by
    rw [← zpow_natCast]
    exact zpow_le_zpow_right₀ one_le_two (by omega)
  calc (m : ℚ) * 2 ^ e < 2 ^ 53 * 2 ^ e := mul_lt_mul_of_pos_right below (zpow_pos two_pos e)
    _ ≤ 2 ^ 53 * 2 ^ 971 := mul_le_mul_of_nonneg_left unit (by positivity)
    _ = 2 ^ 1024 := by rw [← pow_add]

/-- A number in floating point stands for a sign and a magnitude. -/
def IsFloat (negative : Bool) (r : ℚ) (x : Float) : Prop := Denotes negative r x.toModel.unpack

def packed (u : UnpackedFloat) : Float := .ofModel (Float.Model.pack u)

theorem unpack_packed (u : UnpackedFloat) : (packed u).toModel.unpack =
    UnpackedFloat.unpack Format.binary64 (UnpackedFloat.pack Format.binary64 u) := rfl

theorem Denotes.isFloat_packed {negative : Bool} {r : ℚ} {u : UnpackedFloat}
    (h : Denotes negative r u) : IsFloat negative r (packed u) := by
  rw [IsFloat, unpack_packed]
  cases h with
  | zero nothing =>
    rw [UnpackedFloat.pack, unpack_packedZero]
    exact .zero nothing
  | finite pos canonical top value =>
    rw [unpack_pack_finite _ pos canonical top]
    exact .finite pos canonical top value
  | infinity past =>
    rw [UnpackedFloat.pack, unpack_packedInfinity]
    exact .infinity past

/-- What is rounded and packed is infinite past the largest number. -/
theorem IsRounded.isFloat_packed {negative : Bool} {q : ℚ} {u : UnpackedFloat}
    (h : IsRounded (signOf negative) q u) : IsFloat negative (nearestFloat q) (packed u) := by
  rcases h with ⟨nothing, rfl⟩ | ⟨m, e, pos, rfl, canonical, value⟩
  · exact (Denotes.zero nothing).isFloat_packed
  · by_cases top : e ≤ 971
    · exact (Denotes.finite pos canonical top value).isFloat_packed
    · rw [IsFloat, unpack_packed, unpack_pack_overflow _ pos (not_le.mp top)]
      apply Denotes.infinity
      have places : (2 : ℚ) ^ 52 ≤ m := by exact_mod_cast canonical.full (by omega)
      have unit : (2 : ℚ) ^ 972 ≤ 2 ^ e := by
        rw [← zpow_natCast]
        exact zpow_le_zpow_right₀ one_le_two (by omega)
      calc (2 : ℚ) ^ 1024 = 2 ^ 52 * 2 ^ 972 := by rw [← pow_add]
        _ ≤ (m : ℚ) * 2 ^ e := by gcongr
        _ = nearestFloat q := value

section
variable {negative : Bool} {r : ℚ} {u : UnpackedFloat}

theorem Denotes.abs (h : Denotes negative r u) : Denotes false r u.abs := by
  cases h with
  | zero nothing => exact .zero nothing
  | finite pos canonical top value => exact .finite pos canonical top value
  | infinity past => exact .infinity past

theorem Denotes.neg (h : Denotes negative r u) : Denotes (!negative) r u.neg := by
  have flipped : -signOf negative = signOf (!negative) := by cases negative <;> rfl
  cases h with
  | zero nothing =>
    rw [UnpackedFloat.neg, flipped]
    exact .zero nothing
  | finite pos canonical top value =>
    rw [UnpackedFloat.neg, flipped]
    exact .finite pos canonical top value
  | infinity past =>
    rw [UnpackedFloat.neg, flipped]
    exact .infinity past

end

section
variable {negative : Bool} {r : ℚ} {x : Float}

theorem IsFloat.abs (h : IsFloat negative r x) : IsFloat false r x.abs :=
  Denotes.isFloat_packed (Denotes.abs h)

theorem IsFloat.neg (h : IsFloat negative r x) : IsFloat (!negative) r (-x) :=
  Denotes.isFloat_packed (Denotes.neg h)

theorem IsFloat.nonneg (h : IsFloat negative r x) : 0 ≤ r := by
  unfold IsFloat at h
  generalize x.toModel.unpack = u at h
  cases h with
  | zero nothing => exact nothing.ge
  | finite pos canonical top value =>
    rw [← value]
    positivity
  | infinity past => exact le_trans (by positivity) past

end

/-! ## The exact value -/

def exactValue? : UnpackedFloat → Option Dyadic
  | .infinity _ | .notANumber => none
  | .zero s => some ⟨s == .negative, 0, -1074⟩
  | .finite s m e _ => some ⟨s == .negative, m, e⟩

theorem toNat_unpackExponent (b : BitVec 64) :
    (@unpackExponent Format.binary64 b).toNat = b.toNat / 2 ^ 52 % 2 ^ 11 := by
  rw [← Nat.shiftRight_eq_div_pow]
  rfl

theorem toNat_unpackMantissa (b : BitVec 64) :
    (@unpackMantissa Format.binary64 b).toNat = b.toNat % 2 ^ 52 := rfl

theorem sign_eq (b : BitVec 64) :
    (Sign.ofBitVec (@unpackSign Format.binary64 b) == .negative) =
      (b.toNat / 2 ^ 63 == 1) := by
  have value : (@unpackSign Format.binary64 b).toNat = b.toNat / 2 ^ 63 % 2 := by
    rw [← Nat.shiftRight_eq_div_pow]
    rfl
  have zero : @unpackSign Format.binary64 b = 0#1 ↔ b.toNat / 2 ^ 63 = 0 := by
    rw [← BitVec.toNat_inj, value]
    have bounded := b.isLt
    simp only [BitVec.toNat_ofNat]
    omega
  by_cases plus : @unpackSign Format.binary64 b = 0#1
  · rw [Sign.ofBitVec, if_pos plus, zero.mp plus]
    rfl
  · have bounded := b.isLt
    have one : b.toNat / 2 ^ 63 = 1 := by
      have nonzero : b.toNat / 2 ^ 63 ≠ 0 := fun none => plus (zero.mpr none)
      omega
    rw [Sign.ofBitVec, if_neg plus, one]
    rfl

theorem ofFloat?_eq (x : Float) : Dyadic.ofFloat? x = exactValue? x.toModel.unpack := by
  have bits : x.toBits.toNat = x.toModel.toBits.toBitVec.toNat := rfl
  have powers : twoTo 63 = 2 ^ 63 ∧ twoTo 52 = 2 ^ 52 ∧ twoTo 11 = 2 ^ 11 := ⟨rfl, rfl, rfl⟩
  rw [Dyadic.ofFloat?, bits, Float.Model.unpack, powers.1, powers.2.1, powers.2.2]
  generalize x.toModel.toBits.toBitVec = b
  have field := toNat_unpackExponent b
  have fraction := toNat_unpackMantissa b
  have sign := sign_eq b
  unfold UnpackedFloat.unpack
  simp only [← field, ← fraction, ← sign]
  have ones : @unpackExponent Format.binary64 b = -1#11 ↔
      (@unpackExponent Format.binary64 b).toNat = 2 ^ 11 - 1 := by
    rw [← BitVec.toNat_inj]
    rfl
  have zeros : @unpackExponent Format.binary64 b = 0#11 ↔
      (@unpackExponent Format.binary64 b).toNat = 0 := by
    rw [← BitVec.toNat_inj]
    rfl
  simp only [ones, zeros]
  split
  · split <;> rfl
  · split
    · rename_i subnormal
      split
      · rename_i nothing
        rw [nothing]
        rfl
      · rw [exactValue?, format_eq.1, subnormal]
        rfl
    · have whole : (1#1 ++ @unpackMantissa Format.binary64 b).toNat =
          2 ^ 52 + (@unpackMantissa Format.binary64 b).toNat := by
        rw [BitVec.toNat_append, ← Nat.shiftLeft_add_eq_or_of_lt (BitVec.isLt _)]
        rfl
      rw [exactValue?, format_eq.1, whole]
      rfl

/-- The finite numbers are those that have an exact value. -/
theorem isFinite_eq (x : Float) : x.isFinite = (Dyadic.ofFloat? x).isSome := by
  have known : x.isFinite = x.toModel.unpack.isFinite := rfl
  rw [ofFloat?_eq, known]
  cases x.toModel.unpack <;> rfl

/-- A number that is not infinite has an exact value. -/
theorem IsFloat.exists_dyadic {negative : Bool} {r : ℚ} {x : Float} (h : IsFloat negative r x)
    (bounded : r < 2 ^ 1024) : ∃ d, Dyadic.ofFloat? x = some d ∧ d.negative = negative ∧
      -1074 ≤ d.exponent ∧ (d.significand : ℚ) * 2 ^ d.exponent = r := by
  have sign : (signOf negative == .negative) = negative := by cases negative <;> rfl
  rw [ofFloat?_eq]
  unfold IsFloat at h
  generalize x.toModel.unpack = u at *
  cases h with
  | zero nothing =>
    refine ⟨_, rfl, sign, le_refl _, ?_⟩
    rw [nothing, Nat.cast_zero, zero_mul]
  | finite pos canonical top value => exact ⟨_, rfl, sign, canonical.least, value⟩
  | infinity past => exact absurd past (not_le.mpr bounded)

theorem twoTo_eq (k : ℕ) : twoTo k = 2 ^ k := rfl

theorem Dyadic.numerator_div_denominator (d : Dyadic) :
    (d.numerator : ℚ) / d.denominator = d.significand * 2 ^ d.exponent := by
  have exponent : (d.exponent.toNat : ℤ) - (-d.exponent).toNat = d.exponent := by omega
  conv_rhs => rw [← exponent, zpow_sub₀ two_ne_zero, zpow_natCast, zpow_natCast]
  rw [numerator, denominator, twoTo_eq, twoTo_eq]
  push_cast
  rw [mul_div_assoc]

/-- An integer is rounded to itself. -/
theorem Dyadic.round_eq {d : Dyadic} {n : ℤ} (value : (d.significand : ℚ) * 2 ^ d.exponent = n) :
    d.round = if d.negative then -n else n := by
  have denom : 0 < d.denominator := Nat.pow_pos (by decide)
  rw [← d.numerator_div_denominator] at value
  rw [round, roundQuotient_eq _ denom, signed]
  split
  · rw [Int.cast_neg, Int.cast_natCast, neg_div, value, roundEven_neg, roundEven_intCast]
  · rw [Int.cast_natCast, value, roundEven_intCast]

end MacroShell
