import MacroShell.Proofs.Calculator.Turns

/-!
# Malformed expressions

The calculator does not look at the grammar. It finds parentheses that do not match when it
reorders the tokens, and numbers of operands and operators that do not match when it evaluates them.
Only where no operand stands right behind another does that amount to taking turns.
-/

namespace MacroShell
namespace Token

def isOperand : Token → Bool
  | operand _ => true
  | _ => false

def isOperator : Token → Bool
  | operator _ => true
  | _ => false

def operands (ts : List Token) : Nat := ts.countP isOperand

def operators (ts : List Token) : Nat := ts.countP isOperator

theorem operands_cons (t : Token) (ts : List Token) :
    operands (t :: ts) = operands ts + t.isOperand.toNat := by
  rw [operands, List.countP_cons]
  cases t.isOperand <;> rfl

theorem operators_cons (t : Token) (ts : List Token) :
    operators (t :: ts) = operators ts + t.isOperator.toNat := by
  rw [operators, List.countP_cons]
  cases t.isOperator <;> rfl

/-! ## What the calculator tests -/

def waiting (stack : List Waiting) : List Token :=
  stack.filterMap fun
    | .operator op => some (operator op)
    | .opening => none

theorem popBefore_eq (op : Operator) (stack : List Waiting) :
    (Waiting.popBefore op stack).1 ++ waiting (Waiting.popBefore op stack).2 = waiting stack ∧
      (Waiting.popBefore op stack).2.count .opening = stack.count .opening := by
  fun_induction Waiting.popBefore op stack with
  | case1 top stack before popped below same ih =>
    rw [same] at ih
    simpa [waiting] using ih
  | case2 => exact ⟨rfl, rfl⟩
  | case3 => exact ⟨rfl, rfl⟩

theorem popOpening?_eq_some {stack below : List Waiting} {popped : List Token}
    (h : Waiting.popOpening? stack = some (popped, below)) :
    popped ++ waiting below = waiting stack ∧
      below.count .opening + 1 = stack.count .opening := by
  fun_induction Waiting.popOpening? stack generalizing popped with
  | case1 => cases h
  | case2 => cases h; simp [waiting]
  | case3 top stack ih =>
    obtain ⟨⟨more, below⟩, found, same⟩ := Option.map_eq_some_iff.mp h
    cases same
    simpa [waiting] using ih found

theorem popOpening?_isSome_iff {stack : List Waiting} :
    (Waiting.popOpening? stack).isSome = true ↔ 0 < stack.count .opening := by
  fun_induction Waiting.popOpening? stack with
  | case1 => decide
  | case2 => simp
  | case3 top stack ih => simpa using ih

theorem popAll?_eq_some {stack : List Waiting} {out : List Token}
    (h : Waiting.popAll? stack = some out) : out = waiting stack := by
  fun_induction Waiting.popAll? stack generalizing out with
  | case1 => cases h; rfl
  | case2 => cases h
  | case3 top stack ih =>
    obtain ⟨more, found, rfl⟩ := Option.map_eq_some_iff.mp h
    rw [ih found]
    rfl

theorem popAll?_isSome_iff {stack : List Waiting} :
    (Waiting.popAll? stack).isSome = true ↔ stack.count .opening = 0 := by
  fun_induction Waiting.popAll? stack with
  | case1 => decide
  | case2 => simp
  | case3 top stack ih => simpa using ih

/-- Tokens can be reordered exactly if their parentheses match. -/
theorem reorder?_isSome_iff {stack : List Waiting} {ts : List Token} :
    (reorder? stack ts).isSome = true ↔ Balanced (stack.count .opening) ts := by
  induction ts generalizing stack with
  | nil => exact popAll?_isSome_iff
  | cons t rest ih =>
    cases t with
    | operator op =>
      have same := (popBefore_eq op stack).2
      rw [reorder?, Option.isSome_map, ih, Balanced, ← same]
      simp
    | opening => rw [reorder?, ih, Balanced, List.count_cons_self]
    | closing =>
      rw [reorder?, Balanced, ← popOpening?_isSome_iff]
      cases found : Waiting.popOpening? stack with
      | none => simp
      | some popped =>
        obtain ⟨popped, below⟩ := popped
        have same := (popOpening?_eq_some found).2
        simp [ih, ← same]
    | operand n => rw [reorder?, Option.isSome_map, ih, Balanced]

/-- Whether a token is left in postfix order. -/
def isPart (t : Token) : Bool := t.isOperand || t.isOperator

/-- Reordering drops the parentheses and keeps everything else. -/
theorem reorder?_perm {stack : List Waiting} {ts out : List Token}
    (h : reorder? stack ts = some out) : out.Perm (waiting stack ++ ts.filter isPart) := by
  induction ts generalizing stack out with
  | nil =>
    rw [popAll?_eq_some h]
    simp
  | cons t rest ih =>
    cases t with
    | operator op =>
      obtain ⟨more, reordered, rfl⟩ := Option.map_eq_some_iff.mp h
      rw [← (popBefore_eq op stack).1, List.append_assoc]
      exact ((ih reordered).trans List.perm_middle.symm).append_left _
    | opening =>
      have kept : out.Perm (waiting (.opening :: stack) ++ rest.filter isPart) := ih h
      simpa [waiting, isPart, isOperand, isOperator] using kept
    | closing =>
      obtain ⟨⟨popped, below⟩, found, more⟩ := Option.bind_eq_some_iff.mp h
      obtain ⟨more, reordered, rfl⟩ := Option.map_eq_some_iff.mp more
      rw [← (popOpening?_eq_some found).1, List.append_assoc]
      exact (ih reordered).append_left _
    | operand n =>
      obtain ⟨more, reordered, rfl⟩ := Option.map_eq_some_iff.mp h
      exact ((ih reordered).cons _).trans List.perm_middle.symm

theorem countP_parts {p : Token → Bool} (parts : ∀ t, p t = true → t.isPart = true)
    (ts : List Token) : (ts.filter isPart).countP p = ts.countP p := by
  rw [List.countP_filter]
  refine List.countP_congr fun t _ => ?_
  simpa using parts t

theorem isPart_of_isOperand (t : Token) (h : t.isOperand = true) : t.isPart = true := by
  rw [isPart, h, Bool.true_or]

theorem isPart_of_isOperator (t : Token) (h : t.isOperator = true) : t.isPart = true := by
  rw [isPart, h, Bool.or_true]

theorem toPostfix_eq_ok {ts out : List Token} (h : toPostfix ts = .ok out) :
    reorder? [] ts = some out := by
  unfold toPostfix at h
  split at h
  · rename_i reordered
    cases h
    exact reordered
  · cases h

end Token

namespace Arithmetic

variable {α : Type} {arithmetic : Arithmetic α}

/-- An operand adds a value, and an operator makes one of two. -/
theorem step_length {stack next : List α} {t : Token} (part : t.isPart = true)
    (h : arithmetic.step stack t = .ok next) :
    next.length + t.isOperator.toNat = stack.length + t.isOperand.toNat := by
  cases t with
  | opening | closing => cases part
  | operand n =>
    simp only [step] at h
    split at h <;> cases h
    rfl
  | operator op =>
    simp only [step] at h
    split at h
    · obtain ⟨x, -, rfl⟩ := Token.map_eq_ok h
      rfl
    · cases h

theorem run_length {stack last : List α} {ts : List Token} (parts : ∀ t ∈ ts, t.isPart = true)
    (h : arithmetic.run stack ts = .ok last) :
    last.length + Token.operators ts = stack.length + Token.operands ts := by
  induction ts generalizing stack with
  | nil =>
    cases h
    rfl
  | cons t rest ih =>
    obtain ⟨part, others⟩ := List.forall_mem_cons.mp parts
    obtain ⟨next, stepped, ran⟩ := Token.bind_eq_ok h
    have here := step_length part stepped
    have later := ih others ran
    rw [Token.operands_cons, Token.operators_cons]
    omega

theorem evaluate_eq_ok {ts : List Token} {x : α} (h : arithmetic.evaluate ts = .ok x) :
    arithmetic.run [] ts = .ok [x] := by
  obtain ⟨last, ran, single⟩ := Token.bind_eq_ok h
  rw [ran]
  split at single
  · cases single
    rfl
  · cases single

/-- An expression with a value has matching parentheses and one operand more than operators. -/
theorem calculate_eq_ok {text : Text} {x : α} (h : arithmetic.calculate text = .ok x) :
    ∃ ts, Token.ofExpression text = .ok ts ∧ Token.Balanced 0 ts ∧
      Token.operands ts = Token.operators ts + 1 := by
  obtain ⟨ts, read, h⟩ := Token.bind_eq_ok h
  obtain ⟨out, reordered, value⟩ := Token.bind_eq_ok h
  have reordered := Token.toPostfix_eq_ok reordered
  have balanced : Token.Balanced 0 ts := by
    have some : (Token.reorder? [] ts).isSome = true := by rw [reordered]; rfl
    exact Token.reorder?_isSome_iff.mp some
  have rearranged : out.Perm (ts.filter Token.isPart) := Token.reorder?_perm reordered
  have parts : ∀ t ∈ out, t.isPart = true :=
    fun t mem => List.of_mem_filter (rearranged.mem_iff.mp mem)
  have counted := run_length parts (evaluate_eq_ok value)
  have operands : Token.operands out = Token.operands ts :=
    (rearranged.countP_eq _).trans (Token.countP_parts Token.isPart_of_isOperand ts)
  have operators : Token.operators out = Token.operators ts :=
    (rearranged.countP_eq _).trans (Token.countP_parts Token.isPart_of_isOperator ts)
  rw [operands, operators, List.length_singleton, List.length_nil] at counted
  exact ⟨ts, read, balanced, by omega⟩

end Arithmetic

/-! ## Operands apart from each other -/

namespace Token

/-- No operand stands right behind another. -/
def Apart (ts : List Token) : Prop :=
  ts.IsChain fun a b => ¬ (a.endsOperand = true ∧ b.startsOperand = true)

/-- Where no operand stands right behind another, a token ends no more operands than it makes up
for. -/
theorem turn_le {before t : Token}
    (apart : ¬ (before.endsOperand = true ∧ t.startsOperand = true)) :
    t.isOperand.toNat + before.endsOperand.toNat ≤ t.isOperator.toNat + t.endsOperand.toNat := by
  cases before <;> cases t <;>
    simp_all [endsOperand, startsOperand, isOperand, isOperator]

theorem takesTurns_of_turn_eq {before t : Token}
    (apart : ¬ (before.endsOperand = true ∧ t.startsOperand = true))
    (same : t.isOperand.toNat + before.endsOperand.toNat =
      t.isOperator.toNat + t.endsOperand.toNat) : TakesTurns before t := by
  cases before <;> cases t <;>
    simp_all [TakesTurns, endsOperand, startsOperand, isOperand, isOperator]

theorem Apart.operands_le {before : Token} {ts : List Token} (h : Apart (before :: ts)) :
    operands ts + before.endsOperand.toNat ≤ operators ts + 1 := by
  induction ts generalizing before with
  | nil =>
    have bound := before.endsOperand.toNat_le
    simpa [operands, operators] using bound
  | cons t rest ih =>
    obtain ⟨apart, others⟩ := List.isChain_cons_cons.mp h
    have turn := turn_le apart
    have later := ih others
    rw [operands_cons, operators_cons]
    omega

/-- If no operand stands right behind another, and there are enough of them, then no operator and
no closing parenthesis takes the place of one. -/
theorem Apart.alternates {before : Token} {ts : List Token} (h : Apart (before :: ts))
    (counted : operands ts + before.endsOperand.toNat = operators ts + 1) :
    (before :: (ts ++ [.closing])).IsChain TakesTurns := by
  induction ts generalizing before with
  | nil =>
    have ended : before.endsOperand = true := by
      cases ended : before.endsOperand with
      | true => rfl
      | false => simp [operands, operators, ended] at counted
    simp [TakesTurns, startsOperand, ended]
  | cons t rest ih =>
    obtain ⟨apart, others⟩ := List.isChain_cons_cons.mp h
    have turn := turn_le apart
    have later := Apart.operands_le others
    rw [operands_cons, operators_cons] at counted
    have here : TakesTurns before t := takesTurns_of_turn_eq apart (by omega)
    exact List.isChain_cons_cons.mpr ⟨here, ih others (by omega)⟩

end Token

/-- **A malformed expression has no value,** unless operands stand side by side in it: where no
operand is right behind another, every text that is not an expression of the grammar ends in an
error. What slips through otherwise still has matching parentheses and one operand more than
operators. -/
theorem calculate_malformed {α : Type} (arithmetic : Arithmetic α) {text : Text}
    (malformed : ∀ ts t, Token.ofExpression text = .ok ts → ¬ Derives .expression ts t) :
    (∃ e, arithmetic.calculate text = .error e) ∨
      ∃ ts, Token.ofExpression text = .ok ts ∧ ¬ Token.Apart ts ∧ Token.Balanced 0 ts ∧
        Token.operands ts = Token.operators ts + 1 := by
  cases value : arithmetic.calculate text with
  | error e => exact Or.inl ⟨e, rfl⟩
  | ok x =>
    obtain ⟨ts, read, balanced, counted⟩ := Arithmetic.calculate_eq_ok value
    refine Or.inr ⟨ts, read, fun apart => ?_, balanced, counted⟩
    have entered : Token.Apart (.opening :: ts) := by
      refine List.isChain_cons.mpr ⟨?_, apart⟩
      simp [Token.endsOperand]
    have turns := entered.alternates (by simpa [Token.endsOperand] using counted)
    obtain ⟨t, derives⟩ :=
      exists_derives_iff.mpr ⟨Token.ofExpression_numerals read, turns, balanced⟩
    exact malformed ts t read derives

/-- Empty parentheses are no operand. -/
theorem calculate_malformed_empty :
    let text : Text := "7+()".toList
    (∀ ts t, Token.ofExpression text = .ok ts → ¬ Derives .expression ts t) ∧
      ∃ e, Arithmetic.binary64.calculate text = .error e := by
  intro text
  have malformed : ∀ ts t, Token.ofExpression text = .ok ts → ¬ Derives .expression ts t := by
    intro ts t read derives
    cases read
    exact absurd derives.alternates (by decide)
  refine ⟨malformed, ?_⟩
  rcases calculate_malformed Arithmetic.binary64 malformed with failed | ⟨ts, read, -, -, counted⟩
  · exact failed
  · cases read
    exact absurd counted (by decide)

/-- An operator behind its two operands is malformed, and has a value all the same. -/
theorem calculate_side_by_side :
    let text : Text := "2(3)+".toList
    (∀ ts t, Token.ofExpression text = .ok ts → ¬ Derives .expression ts t) ∧
      ∃ x, Arithmetic.binary64.calculate text = .ok x := by
  intro text
  refine ⟨?_, _, rfl⟩
  intro ts t read derives
  cases read
  exact absurd derives.alternates (by decide)

end MacroShell
