import MacroShell.Language.Conversion
import MacroShell.Proofs.Number.RoundTrip

/-!
# Signs and rounding of numerals

Within the digit limit the sign of an integer is changed exactly. All other numerals go through
floating point, and so does rounding even for short integers, so that it keeps only those that have
few enough binary places.
-/

namespace MacroShell
namespace Converter

/-! ## One step -/

section
variable (now : Moment) {t : Text}

theorem numberAbs_of_integer {n : ℤ} (read : readInteger? t = some n) :
    apply now .numberAbs t = .done (naturalText n.natAbs) := by
  have within := withinLimit_of_readInteger? read
  have number : Number.read? t = some (.integer n) := by simp [Number.read?, read]
  simp only [apply, onNumber, number, Number.abs, Number.text?, integerText?, Int.natAbs_natCast,
    within, if_true, written]
  rfl

theorem numberNeg_of_integer {n : ℤ} (read : readInteger? t = some n) :
    apply now .numberNeg t = .done (integerText (-n)) := by
  have within := withinLimit_of_readInteger? read
  have number : Number.read? t = some (.integer n) := by simp [Number.read?, read]
  simp only [apply, onNumber, number, Number.neg, Number.text?, integerText?, Int.natAbs_neg,
    within, if_true, written]

section
variable {d : Decimal} (other : readInteger? t = none) (read : Decimal.read? t.trim = some d)
include other read

theorem numberAbs_of_decimal : ∃ text, apply now .numberAbs t = .done text ∧
    IsWritten false (nearestFloat d.magnitude) text := by
  have number : Number.read? t = some (.float d.toFloat) := by
    simp [Number.read?, readDecimal?, other, read]
  refine ⟨floatText d.toFloat.abs, ?_, d.isFloat_toFloat.abs.isWritten⟩
  simp only [apply, onNumber, number, Number.abs, Number.text?, written]

theorem numberNeg_of_decimal : ∃ text, apply now .numberNeg t = .done text ∧
    IsWritten (!d.negative) (nearestFloat d.magnitude) text := by
  have number : Number.read? t = some (.float d.toFloat) := by
    simp [Number.read?, readDecimal?, other, read]
  refine ⟨floatText (-d.toFloat), ?_, d.isFloat_toFloat.neg.isWritten⟩
  simp only [apply, onNumber, number, Number.neg, Number.text?, written]

end

theorem numberAbs_of_not_number (none : Number.read? t = none) : apply now .numberAbs t = .done t := by
  simp only [apply, onNumber, none]

/-- Integers are rounded as they are read. -/
theorem numberRound_of_decimal {d : Decimal} (read : Decimal.read? t.trim = some d) {n : ℤ}
    (value : nearestFloat d.magnitude = n) (bounded : nearestFloat d.magnitude < 2 ^ 1024) :
    apply now .numberRound t = .done (integerText (if d.negative then -n else n)) := by
  have isFloat := d.isFloat_toFloat
  obtain ⟨y, exactly, sign, -, same⟩ := isFloat.exists_dyadic bounded
  have round := Dyadic.round_eq (same.trans value)
  rw [sign] at round
  have found : (readDecimal? t).bind Dyadic.ofFloat? = some y := by
    rw [readDecimal?, read, Option.map_some, Option.bind_some, exactly]
  have within : withinLimit (if d.negative then -n else n).natAbs = true := by
    have least := isFloat.nonneg
    rw [value] at least bounded
    obtain ⟨m, rfl⟩ := Int.eq_ofNat_of_zero_le (show 0 ≤ n by exact_mod_cast least)
    have limit : (2 : ℚ) ^ 1024 ≤ tenTo 1024 := by
      rw [tenTo_eq, Nat.cast_pow]
      exact pow_le_pow_left₀ zero_le_two (by norm_num) 1024
    have below : m < tenTo 1024 := by exact_mod_cast bounded.trans_le limit
    have size : (if d.negative then -(m : ℤ) else m).natAbs = m := by
      split <;> omega
    rw [withinLimit_iff, length_naturalText_le_iff (by decide), size]
    exact below.trans_le (tenTo_le_tenTo (by decide))
  simp only [apply, roundNumber, found, round, integerText?, within, if_true, written]

end

/-! ## Absolute values of absolute values -/

section
variable (now : Moment) {t : Text}

/-- **What was written keeps its text**, unless it is past the largest number. -/
theorem numberAbs_of_isWritten {q : ℚ} {n : ℤ} (multiple : q = n * 2 ^ (-1074 : ℤ))
    (h : IsWritten false q t) :
    apply now .numberAbs t = .done (if t = overflowText then "inf".toList else t) := by
  cases h with
  | zero _ =>
    have read : readInteger? ['0'] = some 0 := by decide
    rw [numberAbs_of_integer now read, if_neg (by decide)]
    rfl
  | infinity _ =>
    have other : readInteger? "inf".toList = none ∧ Decimal.read? (Text.trim "inf".toList) = none := by
      decide
    have none : Number.read? "inf".toList = none := by
      simp only [Number.read?, readDecimal?, other, Option.map_none]
      rfl
    exact numberAbs_of_not_number now none
  | finite positive finite significant =>
    rw [signText, if_neg Bool.false_ne_true, List.nil_append]
    rcases standsFor_digitsText significant with ⟨m, short, -, text⟩ | ⟨other, d, read, -, value⟩
    · have within : withinLimit m = true := by
        rw [withinLimit_iff, length_naturalText_le_iff (by decide)]
        exact lt_of_lt_of_le short (tenTo_le_tenTo (show 15 ≤ digitLimit by decide))
      rw [text, numberAbs_of_integer now (readInteger?_naturalText within),
        if_neg (naturalText_ne_overflowText m)]
      rfl
    · have trimmed := Decimal.trim_eq_self (Option.isSome_of_eq_some read)
      have none := readInteger?_of_not_literal trimmed other
      obtain ⟨text, done, written⟩ := numberAbs_of_decimal now none (trimmed.symm ▸ read)
      rw [value] at written
      rw [done, eq_of_isWritten_nearestDecimal positive finite significant multiple written]

/-- **The absolute value is kept**, unless its digits are past the largest number. -/
theorem numberAbs_numberAbs (t : Text) : ∃ text, apply now .numberAbs t = .done text ∧
    apply now .numberAbs text = .done (if text = overflowText then "inf".toList else text) := by
  cases integer : readInteger? t with
  | some n =>
    have again := readInteger?_naturalText (withinLimit_of_readInteger? integer)
    refine ⟨_, numberAbs_of_integer now integer, ?_⟩
    rw [numberAbs_of_integer now again, if_neg (naturalText_ne_overflowText _)]
    rfl
  | none =>
    cases read : Decimal.read? t.trim with
    | some d =>
      obtain ⟨text, done, written⟩ := numberAbs_of_decimal now integer read
      obtain ⟨n, multiple⟩ := exists_multiple d.magnitude
      exact ⟨text, done, numberAbs_of_isWritten now multiple written⟩
    | none =>
      have other : Number.read? t = none := by
        simp only [Number.read?, readDecimal?, integer, read, Option.map_none]
        rfl
      have numeral : t ≠ overflowText := by
        rintro rfl
        rw [show Text.trim overflowText = overflowText by decide] at read
        have known : (Decimal.read? overflowText).isSome = true := by decide
        rw [read] at known
        cases known
      refine ⟨t, numberAbs_of_not_number now other, ?_⟩
      rw [numberAbs_of_not_number now other, if_neg numeral]

/-- Fifteen digits of the largest number are more than it. -/
theorem numberAbs_largest : ¬ ∀ now t,
    (readInteger? t).isSome = true ∨ (readDecimal? t).isSome = true →
    ∀ text, apply now .numberAbs t = .done text → apply now .numberAbs text = .done text := by
  intro all
  have literal : (readDecimal? "1.7976931348623157e308".toList).isSome = true := by
    rw [readDecimal?, Option.isSome_map]
    decide
  obtain ⟨first, second⟩ : apply .epoch .numberAbs "1.7976931348623157e308".toList =
      .done overflowText ∧ apply .epoch .numberAbs overflowText = .done "inf".toList := by
    decide +kernel
  have kept := all .epoch _ (Or.inr literal) _ first
  rw [second] at kept
  exact absurd kept (by decide)

end

/-! ## Signs of integers of any length -/

section
variable {t : Text} (literal : isIntegerLiteral t.trim = true)
  (long : digitLimit < (takeSign t.trim).2.length)
include literal long

theorem readInteger?_of_long : readInteger? t = none := by
  rw [readInteger?, if_pos literal, integerValue?, digitsValue?, if_neg (not_le.mpr long)]
  rfl

/-- Integers past the digit limit may be infinite. -/
theorem numberAbs_of_long (now : Moment) (large : 2 ^ 1024 ≤ (digitsValue (takeSign t.trim).2 : ℚ)) :
    apply now .numberAbs t = .done "inf".toList := by
  have none := readInteger?_of_long literal long
  have read := Decimal.read?_of_isIntegerLiteral literal
  obtain ⟨text, done, written⟩ := numberAbs_of_decimal now none read
  rw [← zpow_ofNat] at large
  have past := le_nearestFloat (by decide) large
  rw [Decimal.magnitude_integer] at written
  rw [zpow_ofNat] at past
  cases written with
  | zero nothing =>
    rw [nothing] at past
    exact absurd past (not_le.mpr (by positivity))
  | finite _ bounded _ => exact absurd past (not_le.mpr bounded)
  | infinity _ => exact done

end

/-- **Signs are changed exactly** within the digit limit and in integers below `10 ^ 15`, zeros in
front included. Past both, the integer is rounded to floating point, and what is written is no
integer any more. -/
theorem numberAbs_numberNeg_integer (now : Moment) {t : Text}
    (literal : isIntegerLiteral t.trim = true) :
    let negative := (takeSign t.trim).1
    let digits := (takeSign t.trim).2
    let n := digitsValue digits
    (digits.length ≤ digitLimit ∨ n < 10 ^ 15 →
      apply now .numberAbs t = .done (naturalText n) ∧
      apply now .numberNeg t = .done (integerText (signed (!negative) n))) ∧
    (digitLimit < digits.length → 10 ^ 15 ≤ n →
      ∃ magnitude, IsWritten false (nearestFloat n) magnitude ∧ isIntegerLiteral magnitude = false ∧
        apply now .numberAbs t = .done magnitude ∧
        apply now .numberNeg t = .done (signText (!negative) ++ magnitude)) := by
  intro negative digits n
  have opposite : -signed negative n = signed (!negative) n := by
    cases negative <;> simp [signed]
  by_cases short : digits.length ≤ digitLimit
  · have read : readInteger? t = some (signed negative n) := by
      rw [readInteger?, if_pos literal, integerValue?, digitsValue?, if_pos short]
      rfl
    refine ⟨fun _ => ⟨?_, ?_⟩, fun long => absurd short (not_le.mpr long)⟩
    · rw [numberAbs_of_integer now read, natAbs_signed]
    · rw [numberNeg_of_integer now read, opposite]
  · have none := readInteger?_of_long literal (not_le.mp short)
    have read := Decimal.read?_of_isIntegerLiteral literal
    obtain ⟨abs, absDone, absWritten⟩ := numberAbs_of_decimal now none read
    obtain ⟨neg, negDone, negWritten⟩ := numberNeg_of_decimal now none read
    rw [Decimal.magnitude_integer] at absWritten negWritten
    rw [absDone, negDone]
    constructor
    · rintro (within | small)
      · exact absurd within short
      · rw [nearestFloat_natCast (small.trans (by decide))] at absWritten negWritten
        rw [absWritten.natCast small, negWritten.natCast small]
        exact ⟨rfl, rfl⟩
    · intro _ large
      have least := le_nearestFloat_natCast large
      have positive : 0 < nearestFloat n := lt_of_lt_of_le (by positivity) least
      exact ⟨abs, absWritten, absWritten.isIntegerLiteral_eq_false least, rfl,
        by rw [absWritten.eq_append positive negWritten]⟩

/-- A row of ones has no space around it and no sign, and is as large as it is long. -/
theorem row_of_ones (k : ℕ) : (Text.trim (List.replicate (k + 1) '1')) = List.replicate (k + 1) '1' ∧
    takeSign (List.replicate (k + 1) '1') = (false, List.replicate (k + 1) '1') ∧
    isIntegerLiteral (List.replicate (k + 1) '1') = true ∧
    10 ^ k ≤ digitsValue (List.replicate (k + 1) '1') := by
  have digits : ∀ c ∈ List.replicate (k + 1) '1', c.isDigit = true := by
    intro c mem
    rw [List.eq_of_mem_replicate mem]
    rfl
  have sign := takeSign_of_digits digits
  refine ⟨Text.trim_eq_self fun c mem => isSpace_of_isDigit (digits c mem), sign, ?_, ?_⟩
  · rw [isIntegerLiteral, sign, isDigits_iff]
    exact ⟨by simp, fun c mem => isDecimal_of_isDigit (digits c mem)⟩
  · have one : digitsValue ['1'] = 1 := by decide
    rw [List.replicate_succ, ← List.singleton_append, digitsValue_append, one, one_mul,
      List.length_replicate]
    exact Nat.le_add_right _ _

/-- Zero in front, and more digits than the limit. -/
theorem numberAbs_numberNeg_integer_long :
    isIntegerLiteral (Text.trim " -012 ".toList) = true ∧
      apply .epoch .numberAbs " -012 ".toList = .done "12".toList ∧
      apply .epoch .numberNeg " -012 ".toList = .done "12".toList ∧
      isIntegerLiteral (Text.trim (List.replicate 4301 '1')) = true ∧
      ∃ text, isIntegerLiteral text = false ∧
        apply .epoch .numberAbs (List.replicate 4301 '1') = .done text := by
  have short := (numberAbs_numberNeg_integer .epoch (t := " -012 ".toList) (by decide)).1
    (Or.inl (by decide))
  obtain ⟨trimmed, sign, literal, large⟩ := row_of_ones 4300
  rw [← trimmed] at literal
  have long := (numberAbs_numberNeg_integer .epoch literal).2
  rw [trimmed, sign, List.length_replicate] at long
  obtain ⟨text, -, other, done, -⟩ := long (by decide)
    ((Nat.pow_le_pow_right (by decide) (by decide)).trans large)
  exact ⟨by decide, short.1, short.2, literal, text, other, done⟩

/-- An integer of 4301 digits is past the largest number. -/
theorem numberAbs_numberNeg_integer_infinite : ¬ ∀ now t, isIntegerLiteral t = true →
    (apply now .numberAbs t = .done (naturalText (digitsValue (takeSign t).2)) ∨
      apply now .numberAbs t = .done t) ∧
    (apply now .numberNeg t =
        .done (integerText (signed (!(takeSign t).1) (digitsValue (takeSign t).2))) ∨
      apply now .numberNeg t = .done t) := by
  intro all
  obtain ⟨trimmed, sign, literal, large⟩ := row_of_ones 4300
  have past : (2 : ℚ) ^ 1024 ≤ (digitsValue (List.replicate 4301 '1') : ℚ) := by
    have limit : (10 : ℚ) ^ 4300 ≤ (digitsValue (List.replicate 4301 '1') : ℚ) := by
      exact_mod_cast large
    calc (2 : ℚ) ^ 1024 ≤ 10 ^ 1024 := pow_le_pow_left₀ zero_le_two (by norm_num) 1024
      _ ≤ 10 ^ 4300 := pow_le_pow_right₀ (by norm_num) (by decide)
      _ ≤ _ := limit
  have infinite : apply .epoch .numberAbs (List.replicate 4301 '1') = .done "inf".toList := by
    apply numberAbs_of_long <;> rw [trimmed]
    · exact literal
    · rw [sign, List.length_replicate]
      decide
    · rw [sign]
      exact past
  obtain ⟨exactly | same, -⟩ := all .epoch _ literal
  · rw [infinite, Conversion.done.injEq] at exactly
    have letter := isDigit_of_mem_naturalText (exactly ▸ (by decide : 'i' ∈ "inf".toList))
    exact absurd letter (by decide)
  · rw [infinite, Conversion.done.injEq] at same
    have lengths := congrArg List.length same
    rw [List.length_replicate] at lengths
    cases lengths

/-! ## Rounding of integers -/

/-- **Rounding keeps the multiples of the last place** that an integer has in floating point, and
takes any other integer to the multiple nearest to it. -/
theorem numberRound_integer (now : Moment) {n : ℤ} (short : (naturalText n.natAbs).length ≤ 300) :
    apply now .numberRound (integerText n) =
      .done (integerText (roundQuotient n (lastPlace n) * lastPlace n)) ∧
    (apply now .numberRound (integerText n) = .done (integerText n) ↔ (lastPlace n : ℤ) ∣ n) := by
  have place := lastPlace_pos n
  have read : Decimal.read? (integerText n) = some ⟨decide (n < 0), n.natAbs, 0⟩ := by
    rw [Decimal.read?_of_isIntegerLiteral (isIntegerLiteral_integerText n), takeSign_integerText,
      digitsValue_naturalText]
  have trimmed := Decimal.trim_eq_self (Option.isSome_of_eq_some read)
  have value := nearestFloat_eq_roundQuotient n.natAbs
  have bounded := nearestFloat_lt_limit short
  rw [← Decimal.magnitude_integer (decide (n < 0))] at value bounded
  have done := numberRound_of_decimal now (trimmed.symm ▸ read) value bounded
  have same : lastPlace n.natAbs = lastPlace n := rfl
  simp only [decide_eq_true_eq, same, roundQuotient_natAbs_mul n place] at done
  refine ⟨done, ?_⟩
  rw [done, ← roundQuotient_mul_eq_iff place, Conversion.done.injEq]
  exact ⟨fun same => integerText_injective same, congrArg integerText⟩

/-- An even number past `2 ^ 53`. -/
theorem numberRound_integer_even : (naturalText (9007199254740994 : ℤ).natAbs).length ≤ 300 ∧
    apply .epoch .numberRound (integerText 9007199254740994) =
      .done (integerText 9007199254740994) :=
  ⟨by decide, (numberRound_integer .epoch (by decide)).2.mpr (by decide)⟩

/-- The odd number `2 ^ 53 + 1` is changed. -/
theorem numberRound_integer_odd : ¬ ∀ now (n : ℤ), (naturalText n.natAbs).length ≤ 300 →
    apply now .numberRound (integerText n) = .done (integerText n) := by
  intro all
  have changed : apply .epoch .numberRound (integerText 9007199254740993) =
      .done (integerText 9007199254740992) := by
    decide +kernel
  have kept := all .epoch 9007199254740993 (by decide)
  rw [changed] at kept
  exact absurd kept (by decide)

end Converter
end MacroShell
