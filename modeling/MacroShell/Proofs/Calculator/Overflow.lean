import MacroShell.Proofs.Calculator.Guards
import MacroShell.Proofs.Number.Operand
import MacroShell.Proofs.Number.RoundTrip

/-!
# Results out of range

Of the five operators only the power reports that its result is out of range. All other results,
and numerals, become infinite there, and the calculation goes on. Nothing is assumed of powers but
that those of finite numbers are finite, unless they fail (`FinitePower`).
-/

namespace MacroShell

/-! ## The limit -/

/-- Magnitudes from here on are rounded past the largest number. -/
def overflowLimit : ℚ := 2 ^ 1024 - 2 ^ 970

section
variable {q : ℚ} {x : Float} (h : IsNearestFloat q x)
include h

theorem IsNearestFloat.isFinite_iff : x.isFinite = true ↔ |q| < overflowLimit := by
  obtain ⟨negative, r, least, rfl, float⟩ := h
  rw [float.isFinite_iff, abs_withSign negative least]
  rcases least.eq_or_lt with rfl | positive
  · rw [nearestFloat_zero, overflowLimit]
    exact iff_of_true (by positivity) (sub_pos.mpr (by gcongr <;> norm_num))
  · rw [← not_le, overflow_iff positive, not_le, overflowLimit]

theorem IsNearestFloat.isInf_iff : x.isInf = true ↔ overflowLimit ≤ |q| := by
  rw [← not_lt, ← h.isFinite_iff]
  obtain ⟨negative, r, -, -, float⟩ := h
  rw [float.isInf_eq]
  simp

end

/-! ## Exact results -/

def Decimal.value (d : Decimal) : ℚ := withSign d.negative d.magnitude

theorem Decimal.isNearestFloat_toFloat (d : Decimal) : IsNearestFloat d.value d.toFloat := by
  refine ⟨d.negative, d.magnitude, ?_, rfl, d.isFloat_toFloat⟩
  unfold magnitude
  positivity

/-- The exact result of an operator; for a power there is none. -/
def Operator.exactly? (p q : ℚ) : Operator → Option ℚ
  | add => some (p + q)
  | sub => some (p - q)
  | mul => some (p * q)
  | div => some (p / q)
  | pow => none

/-- No finite number but zero is zero. -/
theorem beq_zero_of_rational? {x : Float} (h : rational? x = some 0) : (x == 0) = true := by
  obtain ⟨negative, r, nothing, float, -⟩ := exists_isFloat h
  have zero : r = 0 := by rw [← abs_withSign negative float.nonneg, nothing, abs_zero]
  change x.toModel.unpack.beq (.zero .positive) = true
  unfold IsFloat at float
  generalize x.toModel.unpack = u at float
  cases float with
  | zero => cases negative <;> rfl
  | finite pos canonical top value =>
    rw [zero] at value
    exact absurd value (by positivity)
  | infinity past =>
    rw [zero] at past
    exact absurd past (by norm_num)

namespace Formula

def parts : Formula → List Formula
  | leaf numeral => [leaf numeral]
  | node op left right => node op left right :: (left.parts ++ right.parts)

variable (arithmetic : Arithmetic Float)

/-- The exact result of the last operation towards the value of a formula: the number that its
numeral stands for, or the exact result of its operator for operands as they were computed, if they
are finite. -/
inductive Yields : Formula → ℚ → Prop
  | literal {numeral : Text} {d : Decimal} :
      Decimal.read? numeral = some d → Yields (.leaf numeral) d.value
  | operation {op : Operator} {left right : Formula} {x y : Float} {p q r : ℚ} :
      left.value arithmetic = .ok x → right.value arithmetic = .ok y → rational? x = some p →
      rational? y = some q → op.exactly? p q = some r → Yields (.node op left right) r

/-- The exact result is out of range. -/
def Overflows (t : Formula) : Prop := ∃ q, t.Yields arithmetic q ∧ overflowLimit ≤ |q|

variable {arithmetic}

theorem mem_parts (t : Formula) : t ∈ t.parts := by
  cases t <;> exact List.mem_cons_self

theorem value_node_eq_ok {op : Operator} {left right : Formula} {z : Float}
    (h : (node op left right).value arithmetic = .ok z) :
    ∃ x y, left.value arithmetic = .ok x ∧ right.value arithmetic = .ok y ∧
      arithmetic.apply x y op = .ok z := by
  rw [value] at h
  split at h
  · cases h
  · rename_i x first
    split at h
    · cases h
    · rename_i y second
      exact ⟨x, y, first, second, h⟩

/-- The parts of a part are parts of the whole. -/
theorem parts_subset {t u : Formula} (mem : u ∈ t.parts) : u.parts ⊆ t.parts := by
  induction t with
  | leaf numeral =>
    rw [List.mem_singleton.mp mem]
    exact List.Subset.refl _
  | node op left right ihl ihr =>
    rcases List.mem_cons.mp mem with rfl | mem
    · exact List.Subset.refl _
    · apply List.subset_cons_of_subset
      rcases List.mem_append.mp mem with inside | inside
      · exact List.subset_append_of_subset_left _ (ihl inside)
      · exact List.subset_append_of_subset_right _ (ihr inside)

theorem operand_mem_postOrder {t : Formula} {n : Text} (mem : .leaf n ∈ t.parts) :
    .operand n ∈ t.postOrder := by
  induction t with
  | leaf numeral =>
    cases List.mem_singleton.mp mem
    exact List.mem_cons_self
  | node op left right ihl ihr =>
    rcases List.mem_cons.mp mem with same | mem
    · cases same
    · rw [postOrder, List.mem_append, List.mem_append]
      exact Or.inl ((List.mem_append.mp mem).imp ihl ihr)

end Formula

namespace Calculation

/-- Powers of finite numbers are finite, or fail. -/
def FinitePower (power : Float → Float → Attempt Float) : Prop :=
  ∀ {x y z}, x.isFinite = true → y.isFinite = true → power x y = .ok z → z.isFinite = true

section
variable {power : Float → Float → Attempt Float} {arithmetic : Arithmetic Float}

/-! ## One operation -/

theorem Follows.apply_eq (follows : Follows power arithmetic) {x y z : Float} {op : Operator}
    (h : arithmetic.apply x y op = .ok z) : apply power x y op = .ok z := by
  rw [follows.applies, h]
  rfl

theorem Follows.apply_eq_error (follows : Follows power arithmetic) {x y : Float} {op : Operator}
    {e : CalculationError} (h : apply power x y op = .error (.reported e)) :
    arithmetic.apply x y op = .error e := by
  rw [follows.applies] at h
  cases applied : arithmetic.apply x y op with
  | ok z =>
    rw [applied] at h
    cases h
  | error e' =>
    rw [applied] at h
    cases h
    rfl

theorem divide_eq_ok {x y z : Float} (h : divide x y = .ok z) : ¬ (y == 0) = true ∧ x / y = z := by
  unfold divide at h
  split at h
  · cases h
  · unfold quotient at h
    split at h
    · cases h
    · cases h
      exact ⟨‹_›, rfl⟩

theorem raise_eq_ok {x y z : Float} (h : raise power x y = .ok z) : power x y = .ok z := by
  unfold raise at h
  split at h
  · cases h
  · split at h
    · cases h
    · cases raised : power x y with
      | ok w =>
        rw [raised] at h
        exact congrArg Except.ok (Except.ok.inj h)
      | error fault =>
        rw [raised] at h
        cases h

/-- Whatever is tested first, a power that is out of range is reported. -/
theorem raise_of_overflow {x y : Float} (h : power x y = .error .overflow) :
    ∃ e, raise power x y = .error (.reported e) ∧ e.kind? = some .undefined := by
  unfold raise
  split
  · exact ⟨_, rfl, rfl⟩
  · split
    · exact ⟨_, rfl, rfl⟩
    · rw [h]
      exact ⟨.outOfRange, rfl, rfl⟩

/-- An operator rounds its exact result. -/
theorem Follows.isNearestFloat_apply (follows : Follows power arithmetic) {x y z : Float}
    {op : Operator} {p q r : ℚ} (applied : arithmetic.apply x y op = .ok z)
    (left : rational? x = some p) (right : rational? y = some q)
    (exact : op.exactly? p q = some r) : IsNearestFloat r z := by
  have same := follows.apply_eq applied
  cases op with
  | add =>
    cases same
    cases exact
    exact isNearestFloat_add left right
  | sub =>
    cases same
    cases exact
    exact isNearestFloat_sub left right
  | mul =>
    cases same
    cases exact
    exact isNearestFloat_mul left right
  | div =>
    obtain ⟨divisor, rfl⟩ := divide_eq_ok same
    cases exact
    refine isNearestFloat_div left right ?_
    rintro rfl
    exact divisor (beq_zero_of_rational? right)
  | pow => cases exact

/-- An operator other than the power does not report that its exact result is out of range. -/
theorem Follows.apply_of_overflow (follows : Follows power arithmetic) {x y : Float} {op : Operator}
    {p q r : ℚ} (left : rational? x = some p) (right : rational? y = some q)
    (exact : op.exactly? p q = some r) (past : overflowLimit ≤ |r|) :
    (op = .div ∧ y.abs < epsilon ∧ arithmetic.apply x y op = .error .divisionByZero) ∨
      ∃ z, arithmetic.apply x y op = .ok z ∧ z.isInf = true := by
  cases applied : arithmetic.apply x y op with
  | ok z =>
    have nearest := follows.isNearestFloat_apply applied left right exact
    exact Or.inr ⟨z, rfl, nearest.isInf_iff.mpr past⟩
  | error e =>
    have same := follows.applies x y op
    rw [applied] at same
    cases op with
    | add | sub | mul => cases same
    | div =>
      rw [apply, divide_eq, Operator.divide] at same
      split at same
      · rename_i near
        cases same
        exact Or.inl ⟨rfl, near, rfl⟩
      · cases same
    | pow => cases exact

/-! ## Formulas -/

/-- The exact result of the last operation is rounded to the value. -/
theorem Follows.isNearestFloat_value (follows : Follows power arithmetic) {t : Formula} {q : ℚ}
    {z : Float} (yields : t.Yields arithmetic q) (value : t.value arithmetic = .ok z) :
    IsNearestFloat q z := by
  cases yields with
  | @literal numeral d read =>
    rw [Formula.value, follows.reads, readOperand?_of_read? read] at value
    cases value
    exact d.isNearestFloat_toFloat
  | operation first second left right exact =>
    obtain ⟨x, y, first', second', applied⟩ := Formula.value_node_eq_ok value
    cases first.symm.trans first'
    cases second.symm.trans second'
    exact follows.isNearestFloat_apply applied left right exact

/-- A numeral has no space, no letters and no low lines. -/
theorem readOperand?_of_isNumeral {n : Text} (h : IsNumeral n) :
    readOperand? n = (Decimal.read? n).map Decimal.toFloat := by
  have others : isDigit '_' = false ∧ isDigit 'n' = false ∧ isDigit 'N' = false := by decide
  have absent {c : Char} (noDigit : isDigit c = false) (noPoint : c ≠ '.') : c ∉ n := by
    intro mem
    rcases h.2.1 c mem with digit | point
    · rw [noDigit] at digit
      cases digit
    · exact noPoint point
  refine readOperand?_eq (fun c mem => ?_) (absent others.1 (by decide))
    (absent others.2.1 (by decide)) (absent others.2.2 (by decide))
  rw [Bool.eq_false_iff]
  intro space
  refine absent (isDigit_of_isSpace space) ?_ mem
  rintro rfl
  cases space

theorem Follows.isFinite_of_yields (follows : Follows power arithmetic) {t : Formula} {q : ℚ}
    {z : Float} (yields : t.Yields arithmetic q) (value : t.value arithmetic = .ok z)
    (fits : ¬ t.Overflows arithmetic) : z.isFinite = true := by
  rw [(follows.isNearestFloat_value yields value).isFinite_iff, ← not_le]
  exact fun past => fits ⟨q, yields, past⟩

/-- **Values are finite as long as no exact result is out of range.** -/
theorem Follows.isFinite_value (follows : Follows power arithmetic) (finite : FinitePower power)
    {t : Formula} (numerals : ∀ n, .leaf n ∈ t.parts → IsNumeral n) {z : Float}
    (value : t.value arithmetic = .ok z) (fits : ∀ u ∈ t.parts, ¬ u.Overflows arithmetic) :
    z.isFinite = true := by
  have last := fits t t.mem_parts
  induction t generalizing z with
  | leaf n =>
    have numeral := numerals n List.mem_cons_self
    have known := value
    rw [Formula.value, follows.reads, readOperand?_of_isNumeral numeral] at known
    cases read : Decimal.read? n with
    | none =>
      rw [read] at known
      cases known
    | some d => exact follows.isFinite_of_yields (.literal read) value last
  | node op left right ihl ihr =>
    obtain ⟨x, y, first, second, applied⟩ := Formula.value_node_eq_ok value
    have inside {u : Formula} (mem : u ∈ left.parts ∨ u ∈ right.parts) :
        u ∈ (Formula.node op left right).parts :=
      List.mem_cons_of_mem _ (List.mem_append.mpr mem)
    have finite_x := ihl (fun n mem => numerals n (inside (Or.inl mem))) first
      (fun u mem => fits u (inside (Or.inl mem))) (fits left (inside (Or.inl left.mem_parts)))
    have finite_y := ihr (fun n mem => numerals n (inside (Or.inr mem))) second
      (fun u mem => fits u (inside (Or.inr mem))) (fits right (inside (Or.inr right.mem_parts)))
    obtain ⟨p, exact_x⟩ := isFinite_iff.mp finite_x
    obtain ⟨q, exact_y⟩ := isFinite_iff.mp finite_y
    cases exact : op.exactly? p q with
    | some r =>
      exact follows.isFinite_of_yields (.operation first second exact_x exact_y exact) value last
    | none =>
      cases op with
      | add | sub | mul | div => cases exact
      -- A power has no exact result here, and its operands are finite.
      | pow => exact finite finite_x finite_y (raise_eq_ok (follows.apply_eq applied))

/-! ## Texts -/

/-- The formula of a text is made of numerals. -/
theorem numerals_of_toPostfix {text : Text} {ts : List Token} {t : Formula}
    (cut : Token.ofExpression text = .ok ts) (ordered : Token.toPostfix ts = .ok t.postOrder) :
    ∀ n, .leaf n ∈ t.parts → IsNumeral n := by
  intro n mem
  have kept : t.postOrder.Perm (ts.filter Token.isPart) :=
    Token.reorder?_perm (Token.toPostfix_eq_ok ordered)
  have inside := kept.mem_iff.mp (Formula.operand_mem_postOrder mem)
  exact Token.ofExpression_numerals cut n (List.mem_of_mem_filter inside)

/-- **Results out of range are not reported**, unless they are powers. A power that is out of range
is an error; a sum, a difference, a product or a quotient of finite numbers that is out of range is
an infinite number, but for a divisor next to zero. What a text is calculated to is the value of a
formula in postfix order. Of each part of that formula, and so of the whole, the value is infinite
if its own exact result is out of range, and finite if no exact result is out of range in all that
it is made of. The calculator follows the powers that it has. -/
theorem calculate_overflow (finite : FinitePower power) (follows : Follows power arithmetic) :
    Follows binary64Power .binary64 ∧
    (∀ x y, power x y = .error .overflow →
      ∃ e, arithmetic.apply x y .pow = .error e ∧ e.kind? = some .undefined) ∧
    (∀ x y op p q r, rational? x = some p → rational? y = some q →
      op.exactly? p q = some r → overflowLimit ≤ |r| →
      (op = .div ∧ y.abs < epsilon ∧ arithmetic.apply x y op = .error .divisionByZero) ∨
        ∃ z, arithmetic.apply x y op = .ok z ∧ z.isInf = true) ∧
    ∀ text,
      (∀ x, arithmetic.calculate text = .ok x ↔
        ∃ (ts : List Token) (t : Formula), Token.ofExpression text = .ok ts ∧
          Token.toPostfix ts = .ok t.postOrder ∧ t.value arithmetic = .ok x) ∧
      ∀ (ts : List Token) (t : Formula), Token.ofExpression text = .ok ts →
        Token.toPostfix ts = .ok t.postOrder →
        ∀ u ∈ t.parts, ∀ z, u.value arithmetic = .ok z →
          (u.Overflows arithmetic → z.isInf = true) ∧
          ((∀ v ∈ u.parts, ¬ v.Overflows arithmetic) → z.isFinite = true) := by
  refine ⟨follows_binary64, fun x y past => ?_, fun x y op p q r => follows.apply_of_overflow,
    fun text => ⟨fun x => Arithmetic.calculate_eq_ok_iff, ?_⟩⟩
  · obtain ⟨e, raised, kind⟩ := raise_of_overflow past
    exact ⟨e, follows.apply_eq_error raised, kind⟩
  · intro ts t cut ordered u mem z value
    refine ⟨?_, fun fits => ?_⟩
    · rintro ⟨q, yields, past⟩
      exact (follows.isNearestFloat_value yields value).isInf_iff.mpr past
    refine follows.isFinite_value finite (fun n inside => ?_) value fits
    exact numerals_of_toPostfix cut ordered n (Formula.parts_subset mem inside)

end

def square (x _ : Float) : Attempt Float :=
  if x.isFinite && (x * x).isInf then .error .overflow else .ok (x * x)

theorem finitePower_square : FinitePower square := by
  intro x y z finite _ squared
  obtain ⟨q, exact⟩ := isFinite_iff.mp finite
  obtain ⟨negative, r, -, -, float⟩ := isNearestFloat_mul exact exact
  unfold square at squared
  split at squared
  · cases squared
  · rename_i fits
    cases squared
    simpa [finite, float.isInf_eq] using fits

theorem lawfulPower_square : LawfulPower square where
  fault failed := by
    unfold square at failed
    split at failed <;> cases failed
    exact Or.inr rfl
  badValue failed := by
    unfold square at failed
    split at failed <;> cases failed

/-- A square out of range is reported, and a numeral out of range is not. -/
theorem calculate_overflow_square :
    let huge : Text := '1' :: List.replicate 309 '0'
    let t : Formula := .node .sub (.node .pow (.leaf "1.5".toList) (.leaf ['2'])) (.leaf huge)
    ∃ arithmetic x z, FinitePower square ∧ Follows square arithmetic ∧
      square 1e200 2 = .error .overflow ∧
      (∃ e, arithmetic.apply 1e200 2 .pow = .error e ∧ e.kind? = some .undefined) ∧
      arithmetic.calculate ("1.5^2-".toList ++ huge) = .ok x ∧ t.value arithmetic = .ok x ∧
      Formula.leaf huge ∈ t.parts ∧ (Formula.leaf huge).Overflows arithmetic ∧
      (Formula.leaf huge).value arithmetic = .ok z ∧ z.isInf = true := by
  intro huge t
  obtain ⟨arithmetic, follows, -⟩ := exists_follows (apply_reports lawfulPower_square)
  obtain ⟨-, reported, -, silent⟩ := calculate_overflow finitePower_square follows
  obtain ⟨same, parts⟩ := silent ("1.5^2-".toList ++ huge)
  have past : square 1e200 2 = .error .overflow := if_pos (by decide +kernel)
  have read : Decimal.read? huge = some ⟨false, 10 ^ 309, 0⟩ := by decide +kernel
  have overflows : (Formula.leaf huge).Overflows arithmetic := by
    refine ⟨_, .literal read, ?_⟩
    have value : Decimal.value ⟨false, 10 ^ 309, 0⟩ = 10 ^ (309 : ℤ) := by
      rw [Decimal.value, Decimal.magnitude_integer, Nat.cast_pow, Nat.cast_ofNat, zpow_ofNat]
      rfl
    have top : overflowLimit < 2 ^ 1024 := sub_lt_self _ (by positivity)
    rw [value, abs_of_pos (by positivity)]
    exact (top.trans limit_bounds.1).le
  have cut : Token.ofExpression ("1.5^2-".toList ++ huge) = .ok [.operand "1.5".toList,
      .operator .pow, .operand ['2'], .operator .sub, .operand huge] := by decide +kernel
  have ordered : Token.toPostfix [.operand "1.5".toList, .operator .pow, .operand ['2'],
    .operator .sub, .operand huge] = .ok t.postOrder := rfl
  have mem : Formula.leaf huge ∈ t.parts := by simp [t, Formula.parts]
  have numeral : (Formula.leaf huge).value arithmetic =
      .ok (Decimal.toFloat ⟨false, 10 ^ 309, 0⟩) := by
    rw [Formula.value, follows.reads, readOperand?_of_read? read]
  have infinite := (parts _ t cut ordered _ mem _ numeral).1 overflows
  have ended : (calculate square ("1.5^2-".toList ++ huge)).toBool = true := by decide +kernel
  rw [follows.calculate_eq] at ended
  cases value : arithmetic.calculate ("1.5^2-".toList ++ huge) with
  | error e =>
    rw [value] at ended
    cases ended
  | ok x =>
    obtain ⟨ts, u, cut', ordered', whole⟩ := (same x).mp value
    cases cut.symm.trans cut'
    obtain rfl := Formula.postOrder_injective (Except.ok.inj (ordered.symm.trans ordered'))
    exact ⟨arithmetic, x, _, finitePower_square, follows, past, reported _ _ past, value, whole,
      mem, overflows, numeral, infinite⟩

/-- The calculator takes a product out of range for a value. -/
theorem calculate_overflow_product :
    let huge : Text := '1' :: List.replicate 200 '0'
    ∃ x, Arithmetic.binary64.calculate (huge ++ '*' :: huge) = .ok x ∧ x.isFinite = false := by
  intro huge
  have ended : (Arithmetic.binary64.calculate (huge ++ '*' :: huge)).toOption.map Float.isFinite =
      some false := by decide +kernel
  cases value : Arithmetic.binary64.calculate (huge ++ '*' :: huge) with
  | error e =>
    rw [value] at ended
    cases ended
  | ok x =>
    rw [value] at ended
    exact ⟨x, rfl, Option.some.inj ended⟩

end Calculation
end MacroShell
