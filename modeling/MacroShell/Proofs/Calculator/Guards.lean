import MacroShell.Proofs.Calculator.ReversePolish
import MacroShell.Proofs.Language.Fault

/-!
# Guards of the calculator

A calculation is followed with the faults of the operations behind it: a text need not be a number,
a stack may be empty, there is no quotient by zero, and a power may be out of range. Each of them is
kept away by a test in front of the operation, or it is caught and reported. Nothing is assumed of
powers but where they may fail (`LawfulPower`).
-/

namespace MacroShell

/-! ## Numbers next to zero -/

section
open Float.Model Float.Model.UnpackedFloat

theorem unpack_eq_zero {x : Float} (h : (x == 0) = true) : ∃ s, x.toModel.unpack = .zero s := by
  have zero : (0 : Float).toModel.unpack = .zero .positive := rfl
  have same : x.toModel.unpack.beq (0 : Float).toModel.unpack = true := h
  rw [zero] at same
  cases parts : x.toModel.unpack with
  | zero s => exact ⟨s, rfl⟩
  | notANumber =>
    rw [parts] at same
    cases same
  | infinity s | finite s m e pos =>
    rw [parts] at same
    cases s <;> cases same

/-- Zero is next to zero, whatever its sign. -/
theorem abs_lt_epsilon {x : Float} (h : (x == 0) = true) : x.abs < epsilon := by
  obtain ⟨s, zero⟩ := unpack_eq_zero h
  have abs : x.abs = ⟨Float.Model.pack (.zero .positive)⟩ := by
    change Float.ofModel (Float.Model.pack x.toModel.unpack.abs) = _
    rw [zero]
    rfl
  rw [abs]
  decide

end

/-! ## Calculations with faults -/

/-- How a calculation breaks off: with an error that it reports, or with a fault that has been caught
nowhere. -/
inductive Abort
  | reported (e : CalculationError)
  | escaped (fault : Fault)

/-- What the errors that are reported say of an expression. -/
inductive ErrorKind
  /-- It is no expression. -/
  | malformed
  /-- It is one without a value. -/
  | undefined
  /-- It has no value since a divisor in it is next to zero. -/
  | divisionByZero
  deriving DecidableEq

def CalculationError.kind? : CalculationError → Option ErrorKind
  | emptyExpression | invalidCharacter _ | unbalancedParentheses | missingOperand _
  | invalidNumber _ | unsupportedOperator _ | mismatch => some .malformed
  | zeroToNegativePower | negativeToFractionalPower | outOfRange => some .undefined
  | divisionByZero => some .divisionByZero
  | undefinedPower => none

abbrev Calculation := Except Abort

namespace Calculation

/-- Where a power may fail: past the range, or because it is no number, and that only for a finite
negative base with a finite exponent that is no integer and for a base of zero with a negative
exponent. -/
structure LawfulPower (power : Float → Float → Attempt Float) : Prop where
  fault : ∀ {x y fault}, power x y = .error fault → fault = .badValue ∨ fault = .overflow
  badValue : ∀ {x y}, power x y = .error .badValue →
    (x.isFinite = true ∧ x < 0 ∧ y.isFinite = true ∧ isIntegral y = false) ∨
      ((x == 0) = true ∧ y < 0)

section
variable {α : Type}

/-- Goes on with what comes of an operation. -/
def unguarded (a : Attempt α) : Calculation α := a.mapError .escaped

/-- Goes on with what comes of an operation, and reports an error where it has a certain fault. -/
def reporting (fault : Fault) (e : CalculationError) : Attempt α → Calculation α
  | .ok a => .ok a
  | .error f => .error (if f = fault then .reported e else .escaped f)

def pop : List α → Attempt (α × List α)
  | [] => .error .missing
  | x :: below => .ok (x, below)

end

/-- Divides; zero of either sign is no divisor. -/
def quotient (x y : Float) : Attempt Float :=
  if y == 0 then .error .zeroDivisor else .ok (x / y)

def binary64Power (x y : Float) : Attempt Float :=
  match power x y with
  | .ok z => .ok z
  | .error .undefined => .error .badValue
  | .error .overflow => .error .overflow

def divide (x y : Float) : Calculation Float :=
  if y.abs < epsilon then .error (.reported .divisionByZero) else unguarded (quotient x y)

section
variable (power : Float → Float → Attempt Float)

/-- Raises to a power, unless the base is next to zero and the exponent negative, or the base is
negative and the exponent not an integer; that the power is out of range is reported. -/
def raise (x y : Float) : Calculation Float :=
  if x.abs < epsilon && y < 0 then .error (.reported .zeroToNegativePower)
  else if x < 0 && !isIntegral y then .error (.reported .negativeToFractionalPower)
  else reporting .overflow .outOfRange (power x y)

def apply (x y : Float) : Operator → Calculation Float
  | .add => .ok (x + y)
  | .sub => .ok (x - y)
  | .mul => .ok (x * y)
  | .div => divide x y
  | .pow => raise power x y

def step (stack : List Float) : Token → Calculation (List Float)
  | .operator op =>
    if stack.length < 2 then .error (.reported (.missingOperand op))
    else do
      let (right, stack) ← unguarded (pop stack)
      let (left, stack) ← unguarded (pop stack)
      let value ← apply power left right op
      .ok (value :: stack)
  | token => do
    let value ← reporting .badValue (.invalidNumber token.text) (Attempt.float token.text)
    .ok (value :: stack)

def run (stack : List Float) : List Token → Calculation (List Float)
  | [] => .ok stack
  | token :: rest => do
    let stack ← step power stack token
    run stack rest

def evaluate (tokens : List Token) : Calculation Float := do
  let stack ← run power [] tokens
  if stack.length = 1 then do
    let (value, _) ← unguarded (pop stack)
    .ok value
  else .error (.reported .mismatch)

def calculate (expression : Text) : Calculation Float := do
  let tokens ← (Token.ofExpression expression).mapError .reported
  let tokens ← (Token.toPostfix tokens).mapError .reported
  evaluate power tokens

end

/-- What a calculation may break off with: an error that says what is wrong with the expression. -/
def Reports {α : Type} (c : Calculation α) : Prop :=
  ∀ abort, c = .error abort → ∃ e kind, abort = .reported e ∧ e.kind? = some kind

/-! ## Operators -/

section
variable {α : Type} {e : CalculationError} {kind : ErrorKind}

theorem reports_ok (a : α) : Reports (.ok a : Calculation α) := nofun

theorem reports_error (h : e.kind? = some kind) :
    Reports (.error (.reported e) : Calculation α) := by
  intro abort same
  cases same
  exact ⟨e, kind, rfl, h⟩

theorem reports_reporting {fault : Fault} {a : Attempt α} (h : e.kind? = some kind)
    (only : ∀ f, a = .error f → f = fault) : Reports (reporting fault e a) := by
  cases a with
  | ok a => exact reports_ok a
  | error f =>
    rw [reporting, if_pos (only f rfl)]
    exact reports_error h

end

/-- No divisor is zero, since zero is next to zero. -/
theorem divide_eq (x y : Float) : divide x y = (Operator.divide x y).mapError .reported := by
  unfold divide Operator.divide
  by_cases near : y.abs < epsilon
  · rw [if_pos near, if_pos near]
    rfl
  · have divisor : ¬ (y == 0) = true := fun zero => near (abs_lt_epsilon zero)
    rw [if_neg near, if_neg near, quotient, if_neg divisor]
    rfl

theorem divide_reports (x y : Float) : Reports (divide x y) := by
  rw [divide_eq, Operator.divide]
  split
  · exact reports_error rfl
  · exact reports_ok _

section
variable {power : Float → Float → Attempt Float}

/-- The first test keeps a base of zero away from negative exponents, and the second one a negative
base from exponents that are no integers. -/
theorem LawfulPower.ne_badValue (lawful : LawfulPower power) {x y : Float}
    (nonzero : ¬ (x.abs < epsilon && y < 0) = true)
    (integral : ¬ (x < 0 && !isIntegral y) = true) : power x y ≠ .error .badValue := by
  intro failed
  rcases lawful.badValue failed with ⟨-, negative, -, fractional⟩ | ⟨zero, negative⟩
  · exact integral (by simp [negative, fractional])
  · exact nonzero (by simp [abs_lt_epsilon zero, negative])

theorem raise_reports (lawful : LawfulPower power) (x y : Float) : Reports (raise power x y) := by
  unfold raise
  split
  · exact reports_error rfl
  · rename_i nonzero
    split
    · exact reports_error rfl
    · rename_i integral
      refine reports_reporting rfl fun fault failed => ?_
      rcases lawful.fault failed with rfl | rfl
      · exact absurd failed (lawful.ne_badValue nonzero integral)
      · rfl

theorem apply_reports (lawful : LawfulPower power) (x y : Float) (op : Operator) :
    Reports (apply power x y op) := by
  cases op with
  | add | sub | mul => exact reports_ok _
  | div => exact divide_reports x y
  | pow => exact raise_reports lawful x y

end

/-! ## Tokens -/

/-- Arithmetic that has the results and the errors of the operators. -/
structure Follows (power : Float → Float → Attempt Float) (arithmetic : Arithmetic Float) : Prop where
  reads : arithmetic.read? = readOperand?
  applies : ∀ x y op, apply power x y op = (arithmetic.apply x y op).mapError .reported

section
variable {power : Float → Float → Attempt Float} {arithmetic : Arithmetic Float}

/-- Where all operators report their errors, nothing is left but these. -/
theorem exists_follows (reports : ∀ x y op, Reports (apply power x y op)) :
    ∃ arithmetic, Follows power arithmetic ∧
      ∀ x y op e, arithmetic.apply x y op = .error e → ∃ kind, e.kind? = some kind := by
  have plain (x y : Float) (op : Operator) : ∃ result : Except CalculationError Float,
      apply power x y op = result.mapError .reported ∧
        ∀ e, result = .error e → ∃ kind, e.kind? = some kind := by
    cases applied : apply power x y op with
    | ok z => exact ⟨.ok z, rfl, nofun⟩
    | error abort =>
      obtain ⟨e, kind, rfl, known⟩ := reports x y op abort applied
      refine ⟨.error e, rfl, fun e' same => ?_⟩
      cases same
      exact ⟨kind, known⟩
  choose result applied known using plain
  exact ⟨⟨readOperand?, result⟩, ⟨rfl, applied⟩, known⟩

/-- A stack is not empty where a value is taken off it, and that a text is no number is reported. -/
theorem Follows.step_eq (h : Follows power arithmetic) (stack : List Float) (token : Token) :
    step power stack token = (arithmetic.step stack token).mapError .reported := by
  cases token with
  | operator op =>
    match stack with
    | [] => rfl
    | [_] => rfl
    | right :: left :: below =>
      have enough : ¬ (right :: left :: below).length < 2 := by
        simp only [List.length_cons]
        omega
      rw [step, if_neg enough, Arithmetic.step]
      change (apply power left right op).bind _ = _
      rw [h.applies]
      cases arithmetic.apply left right op <;> rfl
  | opening | closing | operand =>
    simp only [step, Arithmetic.step, h.reads, Attempt.float]
    cases readOperand? _ <;> rfl

theorem Follows.run_eq (h : Follows power arithmetic) (stack : List Float) (tokens : List Token) :
    run power stack tokens = (arithmetic.run stack tokens).mapError .reported := by
  induction tokens generalizing stack with
  | nil => rfl
  | cons token rest ih =>
    rw [run, Arithmetic.run, h.step_eq]
    cases arithmetic.step stack token with
    | error e => rfl
    | ok next => exact ih next

theorem Follows.evaluate_eq (h : Follows power arithmetic) (tokens : List Token) :
    evaluate power tokens = (arithmetic.evaluate tokens).mapError .reported := by
  rw [evaluate, Arithmetic.evaluate, h.run_eq]
  cases arithmetic.run [] tokens with
  | error e => rfl
  | ok stack =>
    cases stack with
    | nil => rfl
    | cons x below => cases below <;> rfl

theorem Follows.calculate_eq (h : Follows power arithmetic) (text : Text) :
    calculate power text = (arithmetic.calculate text).mapError .reported := by
  unfold calculate Arithmetic.calculate
  cases Token.ofExpression text with
  | error e => rfl
  | ok tokens =>
    change (Except.mapError _ (Token.toPostfix tokens)).bind _ =
      ((Token.toPostfix tokens).bind _).mapError _
    cases Token.toPostfix tokens with
    | error e => rfl
    | ok tokens => exact h.evaluate_eq tokens

end

end Calculation

/-! ## Errors and their kinds -/

namespace Token

theorem ofExpression_eq_error {text : Text} {e : CalculationError}
    (h : ofExpression text = .error e) : e = .emptyExpression ∨ ∃ c, e = .invalidCharacter c := by
  rcases ofExpression_eq_error_iff.mp h with ⟨-, rfl⟩ | ⟨-, c, -, rfl⟩
  · exact Or.inl rfl
  · exact Or.inr ⟨c, rfl⟩

theorem toPostfix_eq_error {ts : List Token} {e : CalculationError}
    (h : toPostfix ts = .error e) : e = .unbalancedParentheses := by
  unfold toPostfix at h
  split at h
  · cases h
  · cases h
    rfl

end Token

namespace Arithmetic

variable {α : Type} {arithmetic : Arithmetic α} {e : CalculationError}

/-- Errors are of a kind as soon as those of the operators are. -/
theorem calculate_kind (known : ∀ x y op e, arithmetic.apply x y op = .error e →
      ∃ kind, e.kind? = some kind) {text : Text} (h : arithmetic.calculate text = .error e) :
    ∃ kind, e.kind? = some kind := by
  rcases Token.bind_eq_error h with unread | ⟨tokens, -, h⟩
  · rcases Token.ofExpression_eq_error unread with rfl | ⟨c, rfl⟩
    · exact ⟨.malformed, rfl⟩
    · exact ⟨.malformed, rfl⟩
  · rcases Token.bind_eq_error h with unbalanced | ⟨tokens, -, failed⟩
    · rw [Token.toPostfix_eq_error unbalanced]
      exact ⟨.malformed, rfl⟩
    · rcases evaluate_eq_error_iff.mp failed with failed | ⟨rfl, -⟩
      · obtain ⟨-, token, -, values, -, -, fails⟩ := run_eq_error_iff.mp failed
        cases fails with
        | missing => exact ⟨.malformed, rfl⟩
        | unread => exact ⟨.malformed, rfl⟩
        | undefined _ undefined => exact known _ _ _ _ undefined
      · exact ⟨.malformed, rfl⟩

end Arithmetic

namespace Calculation

/-! ## The powers of the calculator -/

theorem power_eq_undefined {x y : Float} (h : power x y = .error .undefined) :
    (x.isFinite = true ∧ x < 0 ∧ y.isFinite = true ∧ isIntegral y = false) ∨
      ((x == 0) = true ∧ y < 0) := by
  unfold power at h
  split at h
  · rename_i finite
    split at h
    · rename_i undefined
      simp only [Bool.and_eq_true, Bool.or_eq_true, decide_eq_true_eq, Bool.not_eq_true']
        at finite undefined
      rcases undefined with ⟨negative, fractional⟩ | zero
      · exact Or.inl ⟨finite.1, negative, finite.2, fractional⟩
      · exact Or.inr zero
    · split at h <;> cases h
  · cases h

theorem lawfulPower_binary64 : LawfulPower binary64Power where
  fault {x y fault} failed := by
    unfold binary64Power at failed
    split at failed <;> cases failed
    · exact Or.inl rfl
    · exact Or.inr rfl
  badValue {x y} failed := by
    unfold binary64Power at failed
    split at failed <;> cases failed
    exact power_eq_undefined ‹_›

theorem raise_binary64 (x y : Float) :
    raise binary64Power x y = (Operator.raise x y).mapError .reported := by
  unfold raise Operator.raise
  split
  · rfl
  · rename_i nonzero
    split
    · rfl
    · rename_i integral
      have defined := lawfulPower_binary64.ne_badValue nonzero integral
      unfold binary64Power at defined ⊢
      cases raised : power x y with
      | ok z => rfl
      | error fault =>
        cases fault with
        | overflow => rfl
        | undefined =>
          rw [raised] at defined
          exact absurd rfl defined

theorem follows_binary64 : Follows binary64Power .binary64 where
  reads := rfl
  applies x y op := by
    cases op with
    | add | sub | mul => rfl
    | div => exact divide_eq x y
    | pow => exact raise_binary64 x y

theorem LawfulPower.reports {power : Float → Float → Attempt Float} (lawful : LawfulPower power)
    (text : Text) : Reports (calculate power text) := by
  intro abort broken
  obtain ⟨arithmetic, follows, known⟩ := exists_follows (apply_reports lawful)
  rw [follows.calculate_eq] at broken
  cases value : arithmetic.calculate text with
  | ok x =>
    rw [value] at broken
    cases broken
  | error e =>
    rw [value] at broken
    cases broken
    obtain ⟨kind, same⟩ := Arithmetic.calculate_kind known value
    exact ⟨e, kind, rfl, same⟩

/-- **A calculation breaks off with an error of its own.** As long as powers fail only where they may,
no fault gets past an operator, whatever numbers it is applied to, nor out of a calculation, whatever
the text. All that is reported says that the text is no expression, that it has no value, or that a
divisor is next to zero. The calculator itself has such powers, and gives what comes of a calculation
with them. -/
theorem calculate_reports {power : Float → Float → Attempt Float} (lawful : LawfulPower power) :
    (∀ x y op, Reports (apply power x y op)) ∧ (∀ text, Reports (calculate power text)) ∧
      LawfulPower binary64Power ∧
      ∀ text, calculate binary64Power text =
          (Arithmetic.binary64.calculate text).mapError .reported ∧
        ∀ e, Arithmetic.binary64.calculate text = .error e → ∃ kind, e.kind? = some kind := by
  refine ⟨apply_reports lawful, lawful.reports, lawfulPower_binary64, fun text => ?_⟩
  have same := follows_binary64.calculate_eq text
  refine ⟨same, fun e failed => ?_⟩
  rw [failed] at same
  obtain ⟨e', kind, equal, known⟩ := lawfulPower_binary64.reports text _ same
  cases equal
  exact ⟨kind, known⟩

/-- A raised two counts as a digit and is no number, and zero has no negative power. -/
theorem calculate_reports_digit :
    LawfulPower binary64Power ∧
      calculate binary64Power "7+²".toList = .error (.reported (.invalidNumber ['²'])) ∧
      calculate binary64Power "0^(0-1)".toList = .error (.reported .zeroToNegativePower) ∧
      Reports (calculate binary64Power "7+²".toList) ∧
      Reports (calculate binary64Power "0^(0-1)".toList) := by
  have reports := (calculate_reports lawfulPower_binary64).2.1
  exact ⟨lawfulPower_binary64, rfl, rfl, reports _, reports _⟩

end Calculation
end MacroShell
