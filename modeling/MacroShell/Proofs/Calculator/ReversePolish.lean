import MacroShell.Proofs.Calculator.Malformed

/-!
# Reverse Polish notation

The evaluation on a stack takes any list of tokens. It has a value exactly for the formulas in
postfix order, and what is on the stack on the way are the values of the formulas that the tokens so
far are made of (`Leaves`).
-/

namespace MacroShell

namespace Token

/-- A token as it is taken on a stack of values: what is no operator is an operand, and that goes for
parentheses as well. -/
def onStack : Token → Token
  | .operator op => .operator op
  | token => .operand token.text

theorem operator_or (token : Token) :
    (∃ op, token = .operator op) ∨
      token.isOperator = false ∧ token.onStack = .operand token.text := by
  cases token with
  | operator op => exact Or.inl ⟨op, rfl⟩
  | opening | closing | operand => exact Or.inr ⟨rfl, rfl⟩

/-- Tokens in postfix order are taken as they are. -/
theorem onStack_of_isPart {token : Token} (h : token.isPart = true) : token.onStack = token := by
  cases token with
  | operator | operand => rfl
  | opening | closing => cases h

end Token

namespace Formula

/-- Arithmetic without numbers, which puts formulas together. -/
def construction : Arithmetic Formula :=
  ⟨fun numeral => some (.leaf numeral), fun left right op => .ok (.node op left right)⟩

theorem value_construction (t : Formula) : t.value construction = .ok t := by
  induction t with
  | leaf numeral => rfl
  | node op left right ihl ihr =>
    rw [value, ihl, ihr]
    rfl

/-- A formula is put together again from its tokens. -/
theorem postOrder_injective : Function.Injective postOrder := by
  intro t u same
  have made := t.evaluate_postOrder construction
  rw [same, evaluate_postOrder, value_construction, value_construction] at made
  exact (Except.ok.inj made).symm

end Formula

namespace Arithmetic

variable {α : Type} (arithmetic : Arithmetic α)

/-- The tokens are formulas in postfix order, one behind the other, and these have the values. -/
def Leaves (tokens : List Token) (values : List α) : Prop :=
  ∃ ts : List Formula, ts.flatMap Formula.postOrder = tokens.map Token.onStack ∧
    ts.map (Formula.value arithmetic) = values.map .ok

/-- Why a token cannot be carried out where there are these values, the last one on top. -/
inductive Fails (values : List α) : Token → CalculationError → Prop
  | missing {op : Operator} : values.length < 2 → Fails values (.operator op) (.missingOperand op)
  | unread {token : Token} : token.isOperator = false → arithmetic.read? token.text = none →
      Fails values token (.invalidNumber token.text)
  | undefined {op : Operator} {below : List α} {x y : α} {e : CalculationError} :
      values = below ++ [x, y] → arithmetic.apply x y op = .error e → Fails values (.operator op) e

variable {arithmetic} {tokens : List Token} {values stack : List α}

theorem run_append (stack : List α) (ts us : List Token) :
    arithmetic.run stack (ts ++ us) = (arithmetic.run stack ts).bind (arithmetic.run · us) := by
  induction ts generalizing stack with
  | nil => rfl
  | cons t ts ih =>
    rw [List.cons_append, run, run]
    cases arithmetic.step stack t with
    | error e => rfl
    | ok next => exact ih next

theorem step_onStack (stack : List α) (token : Token) :
    arithmetic.step stack token.onStack = arithmetic.step stack token := by
  cases token <;> rfl

theorem run_onStack (stack : List α) (tokens : List Token) :
    arithmetic.run stack (tokens.map Token.onStack) = arithmetic.run stack tokens := by
  induction tokens generalizing stack with
  | nil => rfl
  | cons token rest ih =>
    rw [List.map_cons, run, run, step_onStack]
    congr 1
    funext next
    exact ih next

theorem run_flatMap {ts : List Formula} (h : ts.map (Formula.value arithmetic) = values.map .ok)
    (stack : List α) :
    arithmetic.run stack (ts.flatMap Formula.postOrder) = .ok (values.reverse ++ stack) := by
  induction ts generalizing values stack with
  | nil =>
    cases values with
    | nil => rfl
    | cons => cases h
  | cons t ts ih =>
    cases values with
    | nil => cases h
    | cons x values =>
      obtain ⟨first, others⟩ := List.cons.inj h
      rw [List.flatMap_cons, Formula.run_postOrder, first, List.reverse_cons, List.append_assoc]
      exact ih others (x :: stack)

theorem Leaves.run_eq (h : arithmetic.Leaves tokens values) :
    arithmetic.run [] tokens = .ok values.reverse := by
  obtain ⟨ts, listed, valued⟩ := h
  rw [← run_onStack, ← listed, run_flatMap valued, List.append_nil]

/-! ## One token -/

theorem short_or_pair (values : List α) :
    values.length < 2 ∨ ∃ below x y, values = below ++ [x, y] := by
  rcases values.eq_nil_or_concat with rfl | ⟨values, y, rfl⟩
  · exact Or.inl Nat.two_pos
  · rcases values.eq_nil_or_concat with rfl | ⟨below, x, rfl⟩
    · exact Or.inl Nat.one_lt_two
    · exact Or.inr ⟨below, x, y, by simp⟩

theorem step_of_short (h : values.length < 2) (op : Operator) :
    arithmetic.step values.reverse (.operator op) = .error (.missingOperand op) := by
  match values with
  | [] => rfl
  | [_] => rfl
  | _ :: _ :: _ => exact absurd h (by simp only [List.length_cons]; omega)

theorem step_pair (below : List α) (x y : α) (op : Operator) :
    arithmetic.step (below ++ [x, y]).reverse (.operator op) =
      (arithmetic.apply x y op).map (· :: below.reverse) := by
  rw [List.reverse_append]
  rfl

theorem step_operand {token : Token} (h : token.isOperator = false) (stack : List α) :
    arithmetic.step stack token = match arithmetic.read? token.text with
      | some x => .ok (x :: stack)
      | none => .error (.invalidNumber token.text) := by
  cases token with
  | operator op => cases h
  | opening | closing | operand => rfl

theorem Fails.step_eq {token : Token} {e : CalculationError}
    (h : arithmetic.Fails values token e) : arithmetic.step values.reverse token = .error e := by
  cases h with
  | missing short => exact step_of_short short _
  | unread operand unreadable => rw [step_operand operand, unreadable]
  | undefined pair undefined =>
    rw [pair, step_pair, undefined]
    rfl

theorem fails_of_step_eq {token : Token} {e : CalculationError}
    (h : arithmetic.step values.reverse token = .error e) : arithmetic.Fails values token e := by
  rcases token.operator_or with ⟨op, rfl⟩ | ⟨operand, -⟩
  · rcases short_or_pair values with short | ⟨below, x, y, rfl⟩
    · rw [step_of_short short] at h
      cases h
      exact .missing short
    · rw [step_pair] at h
      exact .undefined rfl (Token.map_eq_error_iff.mp h)
  · rw [step_operand operand] at h
    split at h <;> cases h
    exact .unread operand ‹_›

/-- A token that can be carried out behind formulas makes a formula: an operand by itself, and an
operator with the last two. -/
theorem Leaves.snoc {token : Token} (h : arithmetic.Leaves tokens values)
    (stepped : arithmetic.step values.reverse token = .ok stack) :
    arithmetic.Leaves (tokens ++ [token]) stack.reverse := by
  obtain ⟨ts, listed, valued⟩ := h
  rcases token.operator_or with ⟨op, rfl⟩ | ⟨operand, taken⟩
  · rcases short_or_pair values with short | ⟨below, x, y, rfl⟩
    · rw [step_of_short short] at stepped
      cases stepped
    · rw [step_pair] at stepped
      obtain ⟨z, applied, rfl⟩ := Token.map_eq_ok stepped
      rw [List.map_append] at valued
      obtain ⟨us, pair, rfl, others, both⟩ := List.map_eq_append_iff.mp valued
      obtain ⟨left, last, rfl, first, both⟩ := List.map_eq_cons_iff.mp both
      obtain ⟨right, none, rfl, second, both⟩ := List.map_eq_cons_iff.mp both
      obtain rfl := List.map_eq_nil_iff.mp both
      have value : (Formula.node op left right).value arithmetic = .ok z := by
        rw [Formula.value, first, second]
        exact applied
      refine ⟨us ++ [.node op left right], ?_, ?_⟩
      · rw [List.map_append, ← listed]
        simp [Formula.postOrder, Token.onStack]
      · simp [others, value]
  · rw [step_operand operand] at stepped
    split at stepped <;> cases stepped
    rename_i x read
    refine ⟨ts ++ [.leaf token.text], ?_, ?_⟩
    · rw [List.flatMap_append, listed, List.map_append, List.map_singleton, taken]
      rfl
    · simp [valued, Formula.value, read]

theorem leaves_nil : arithmetic.Leaves [] [] := ⟨[], rfl, rfl⟩

/-! ## All tokens -/

theorem leaves_of_run_eq (h : arithmetic.run [] tokens = .ok stack) :
    arithmetic.Leaves tokens stack.reverse := by
  induction tokens using List.reverseRecOn generalizing stack with
  | nil =>
    cases h
    exact leaves_nil
  | append_singleton before token ih =>
    rw [run_append] at h
    obtain ⟨middle, ran, last⟩ := Token.bind_eq_ok h
    obtain ⟨next, stepped, same⟩ := Token.bind_eq_ok last
    cases same
    have left := ih ran
    rw [← List.reverse_reverse middle] at stepped
    exact left.snoc stepped

/-- The stack holds the values of the formulas that the tokens are made of. -/
theorem run_eq_ok_iff :
    arithmetic.run [] tokens = .ok stack ↔ arithmetic.Leaves tokens stack.reverse := by
  constructor
  · exact leaves_of_run_eq
  · intro left
    rw [left.run_eq, List.reverse_reverse]

/-- The first token that cannot be carried out decides the error. -/
theorem run_eq_error_iff {e : CalculationError} :
    arithmetic.run [] tokens = .error e ↔
      ∃ before token after values, tokens = before ++ token :: after ∧
        arithmetic.Leaves before values ∧ arithmetic.Fails values token e := by
  constructor
  · intro h
    induction tokens using List.reverseRecOn with
    | nil => cases h
    | append_singleton before token ih =>
      rw [run_append] at h
      rcases Token.bind_eq_error h with failed | ⟨stack, ran, last⟩
      · obtain ⟨front, first, after, values, rfl, left, fails⟩ := ih failed
        exact ⟨front, first, after ++ [token], values, by simp, left, fails⟩
      · rcases Token.bind_eq_error last with stepped | ⟨next, -, none⟩
        · rw [← stack.reverse_reverse] at stepped
          exact ⟨before, token, [], stack.reverse, rfl, run_eq_ok_iff.mp ran,
            fails_of_step_eq stepped⟩
        · cases none
  · rintro ⟨before, token, after, values, rfl, left, fails⟩
    rw [run_append, left.run_eq]
    change (arithmetic.step values.reverse token).bind _ = _
    rw [fails.step_eq]
    rfl

theorem evaluate_eq_ok_iff {x : α} : arithmetic.evaluate tokens = .ok x ↔
    ∃ t : Formula, t.postOrder = tokens.map Token.onStack ∧ t.value arithmetic = .ok x := by
  constructor
  · intro h
    obtain ⟨ts, listed, valued⟩ := run_eq_ok_iff.mp (evaluate_eq_ok h)
    obtain ⟨t, none, rfl, value, rest⟩ := List.map_eq_cons_iff.mp valued
    obtain rfl := List.map_eq_nil_iff.mp rest
    rw [List.flatMap_singleton] at listed
    exact ⟨t, listed, value⟩
  · rintro ⟨t, listed, value⟩
    rw [← value, ← t.evaluate_postOrder, listed, evaluate, evaluate, run_onStack]

/-- What a text is calculated to is the value of the formula in its postfix order. -/
theorem calculate_eq_ok_iff {text : Text} {x : α} : arithmetic.calculate text = .ok x ↔
    ∃ (ts : List Token) (t : Formula), Token.ofExpression text = .ok ts ∧
      Token.toPostfix ts = .ok t.postOrder ∧ t.value arithmetic = .ok x := by
  constructor
  · intro h
    obtain ⟨ts, cut, h⟩ := Token.bind_eq_ok h
    obtain ⟨out, ordered, h⟩ := Token.bind_eq_ok h
    obtain ⟨t, listed, value⟩ := evaluate_eq_ok_iff.mp h
    have kept : out.Perm (ts.filter Token.isPart) :=
      Token.reorder?_perm (Token.toPostfix_eq_ok ordered)
    have same : out.map Token.onStack = out := by
      refine (List.map_congr_left fun token mem => ?_).trans out.map_id
      exact Token.onStack_of_isPart (List.of_mem_filter (kept.mem_iff.mp mem))
    exact ⟨ts, t, cut, by rw [listed, same, ordered], value⟩
  · rintro ⟨ts, t, cut, ordered, value⟩
    simp only [calculate, cut, ordered, bind, Except.bind, t.evaluate_postOrder, value]

theorem evaluate_eq_of_length_ne (ran : arithmetic.run [] tokens = .ok stack)
    (h : stack.length ≠ 1) : arithmetic.evaluate tokens = .error .mismatch := by
  rw [evaluate, ran]
  cases stack with
  | nil => rfl
  | cons x below =>
    cases below with
    | nil => exact absurd rfl h
    | cons => rfl

theorem evaluate_eq_error_iff {e : CalculationError} : arithmetic.evaluate tokens = .error e ↔
    arithmetic.run [] tokens = .error e ∨
      e = .mismatch ∧ ∃ values, arithmetic.Leaves tokens values ∧ values.length ≠ 1 := by
  constructor
  · intro h
    rcases Token.bind_eq_error h with failed | ⟨stack, ran, last⟩
    · exact Or.inl failed
    · by_cases single : stack.length = 1
      · obtain ⟨x, rfl⟩ := List.length_eq_one_iff.mp single
        cases last
      · rw [evaluate_eq_of_length_ne ran single] at h
        cases h
        refine Or.inr ⟨rfl, stack.reverse, run_eq_ok_iff.mp ran, ?_⟩
        rwa [List.length_reverse]
  · rintro (failed | ⟨rfl, values, left, several⟩)
    · rw [evaluate, failed]
      rfl
    · rw [← values.reverse_reverse] at left
      refine evaluate_eq_of_length_ne (run_eq_ok_iff.mpr left) ?_
      rwa [List.length_reverse]

/-- **Exactly reverse Polish notation has a value.** Tokens have a value if and only if they are a
formula in postfix order in which all operands are read and all operations are defined; there is
only one such formula, and the value is its value. All other tokens end in an error: that of the
first token that cannot be carried out on the values of the formulas before it, and if there is no
such token, the error for formulas other than one. -/
theorem evaluate_reversePolish (tokens : List Token) :
    (∀ x, arithmetic.evaluate tokens = .ok x ↔
      ∃ t : Formula, (∀ u : Formula, u.postOrder = tokens.map Token.onStack ↔ u = t) ∧
        t.value arithmetic = .ok x) ∧
    (∀ e, arithmetic.evaluate tokens = .error e ↔
      (∃ before token after values, tokens = before ++ token :: after ∧
        arithmetic.Leaves before values ∧ arithmetic.Fails values token e) ∨
      e = .mismatch ∧ ∃ values, arithmetic.Leaves tokens values ∧ values.length ≠ 1) ∧
    CalculationError.mismatch.message = "operands and operators do not match".toList := by
  refine ⟨fun x => ?_, fun e => ?_, rfl⟩
  · rw [evaluate_eq_ok_iff]
    constructor
    · rintro ⟨t, listed, value⟩
      refine ⟨t, fun u => ⟨fun same => ?_, fun same => same ▸ listed⟩, value⟩
      exact Formula.postOrder_injective (same.trans listed.symm)
    · rintro ⟨t, only, value⟩
      exact ⟨t, (only t).mpr rfl, value⟩
  · rw [evaluate_eq_error_iff, run_eq_error_iff]

/-- A parenthesis is read as a number before the operator behind it misses its operand. -/
example : Arithmetic.binary64.evaluate [.opening, .operator .add] = .error (.invalidNumber ['(']) :=
  rfl

end Arithmetic
end MacroShell
