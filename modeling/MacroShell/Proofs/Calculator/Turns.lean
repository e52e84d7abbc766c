import Mathlib.Data.List.Chain
import MacroShell.Proofs.Calculator.Evaluation

/-!
# Operands and operators take turns

The grammar of expressions comes to two conditions on tokens: operands and operators take turns, and
parentheses match. How tightly operators bind has no part in it.
-/

namespace MacroShell
namespace Token

def endsOperand : Token → Bool
  | operand _ | closing => true
  | operator _ | opening => false

def startsOperand : Token → Bool
  | operand _ | opening => true
  | operator _ | closing => false

/-- Behind an operand that has ended none starts, and otherwise one does. -/
def TakesTurns (a b : Token) : Prop := b.startsOperand = !a.endsOperand

instance : DecidableRel TakesTurns := fun _ _ => inferInstanceAs (Decidable (_ = _))

/-- Operands and operators take turns from the first operand to the last. -/
def Alternates (ts : List Token) : Prop := (.opening :: (ts ++ [.closing])).IsChain TakesTurns

instance (ts : List Token) : Decidable (Alternates ts) :=
  inferInstanceAs (Decidable (List.IsChain _ _))

/-- Each parenthesis is closed, and so are as many more that are open at the beginning. -/
def Balanced (opened : Nat) : List Token → Prop
  | [] => opened = 0
  | opening :: rest => Balanced (opened + 1) rest
  | closing :: rest => 0 < opened ∧ Balanced (opened - 1) rest
  | operator _ :: rest | operand _ :: rest => Balanced opened rest

theorem Alternates.join {ts us : List Token} (ht : Alternates ts) (hu : Alternates us)
    (op : Operator) : Alternates (ts ++ .operator op :: us) := by
  obtain ⟨inner, -, last⟩ := List.isChain_append.mp (show List.IsChain TakesTurns
    ((opening :: ts) ++ [closing]) from ht)
  obtain ⟨first, others⟩ := List.isChain_cons.mp hu
  -- To its left the operator is like a closing parenthesis, and to its right like an opening one.
  have front : List.IsChain TakesTurns ((opening :: ts) ++ [operator op]) :=
    List.isChain_append.mpr ⟨inner, .singleton _, by simpa [TakesTurns, startsOperand] using last⟩
  have back : List.IsChain TakesTurns (operator op :: (us ++ [closing])) :=
    List.isChain_cons.mpr ⟨first, others⟩
  have whole := List.isChain_split.mpr ⟨front, back⟩
  simpa [Alternates] using whole

theorem Alternates.parentheses {ts : List Token} (h : Alternates ts) :
    Alternates (.opening :: (ts ++ [.closing])) := by
  have inside : List.IsChain TakesTurns ((opening :: ts) ++ closing :: [closing]) :=
    List.isChain_split.mpr ⟨h, by decide⟩
  have first : TakesTurns opening opening := rfl
  have whole := List.isChain_cons_cons.mpr ⟨first, inside⟩
  simpa [Alternates] using whole

end Token

/-! ## From the grammar -/

theorem Derives.alternates {c : Category} {ts : List Token} {t : Formula}
    (h : Derives c ts t) : Token.Alternates ts := by
  induction h with
  | numeral => simp [Token.Alternates, Token.TakesTurns, Token.startsOperand, Token.endsOperand]
  | parentheses _ ih => exact ih.parentheses
  | atom _ ih | power _ ih | term _ ih => exact ih
  | raise _ _ iht ihu => exact iht.join ihu .pow
  | @product op _ _ _ _ _ _ _ iht ihu | @sum op _ _ _ _ _ _ _ iht ihu => exact iht.join ihu op

theorem Derives.numerals {c : Category} {ts : List Token} {t : Formula} (h : Derives c ts t) :
    ∀ m, .operand m ∈ ts → IsNumeral m := by
  induction h with
  | numeral hn =>
    intro m mem
    cases List.mem_singleton.mp mem
    exact hn
  | parentheses _ ih => simpa using ih
  | atom _ ih | power _ ih | term _ ih => exact ih
  | raise _ _ iht ihu | product _ _ _ iht ihu | sum _ _ _ iht ihu =>
    intro m mem
    rcases List.mem_append.mp mem with left | right
    · exact iht m left
    · exact ihu m (by simpa using right)

/-- An expression leaves as many parentheses open as there were before it. -/
theorem Derives.balanced_append {c : Category} {ts : List Token} {t : Formula}
    (h : Derives c ts t) (n : Nat) (rest : List Token) :
    Token.Balanced n (ts ++ rest) ↔ Token.Balanced n rest := by
  induction h generalizing n rest with
  | numeral => rfl
  | parentheses _ ih =>
    rw [List.cons_append, List.append_assoc, Token.Balanced, ih]
    simp [Token.Balanced]
  | atom _ ih | power _ ih | term _ ih => exact ih n rest
  | raise _ _ iht ihu | product _ _ _ iht ihu | sum _ _ _ iht ihu =>
    rw [List.append_assoc, iht, List.cons_append, Token.Balanced, ihu]

/-! ## To the grammar -/

theorem Operator.eq_pow {op : Operator} (h : op.category = .power) : op = .pow := by
  cases op <;> first | rfl | cases h

theorem Operator.level_lt {op : Operator} {c : Category} (level : c.level ≤ op.category.level)
    (other : ¬ op.category = c) : c.level < op.category.level := by
  refine Nat.lt_of_le_of_ne level fun same => other ?_
  revert same
  cases c <;> cases op <;> decide

/-- An expression goes on with an operator and an atom. The operator joins the atom to the last
part of the expression that binds more tightly, or as tightly if it associates to the left. -/
theorem Derives.extend {c : Category} {ts us : List Token} {t u : Formula} (h : Derives c ts t)
    {op : Operator} (level : c.level ≤ op.category.level) (atom : Derives .atom us u) :
    ∃ v, Derives c (ts ++ .operator op :: us) v := by
  induction h with
  | numeral | parentheses => cases op <;> exact absurd level (by decide)
  | atom ht =>
    have tightest : op.category = .power := by
      cases op <;> first | rfl | exact absurd level (by decide)
    obtain rfl := Operator.eq_pow tightest
    exact ⟨_, ht.raise atom.atom⟩
  | raise ht _ _ ih =>
    obtain ⟨v, more⟩ := ih level
    rw [List.append_assoc, List.cons_append]
    exact ⟨_, ht.raise more⟩
  | power hp ih =>
    by_cases loose : op.category = .term
    · exact ⟨_, hp.power.product loose atom.atom⟩
    · obtain ⟨v, more⟩ := ih (Operator.level_lt level loose)
      exact ⟨v, more.power⟩
  | product hop ht hp _ ih =>
    by_cases loose : op.category = .term
    · exact ⟨_, (ht.product hop hp).product loose atom.atom⟩
    · obtain ⟨v, more⟩ := ih (Operator.level_lt level loose)
      rw [List.append_assoc, List.cons_append]
      exact ⟨_, ht.product hop more⟩
  | term ht ih =>
    by_cases loose : op.category = .expression
    · exact ⟨_, ht.term.sum loose (atom.ofAtom .term)⟩
    · obtain ⟨v, more⟩ := ih (Operator.level_lt level loose)
      exact ⟨v, more.term⟩
  | sum hop hs ht _ ih =>
    by_cases loose : op.category = .expression
    · exact ⟨_, (hs.sum hop ht).sum loose (atom.ofAtom .term)⟩
    · obtain ⟨v, more⟩ := ih (Operator.level_lt level loose)
      rw [List.append_assoc, List.cons_append]
      exact ⟨_, hs.sum hop more⟩

/-- What may come next in an expression that has been read in part: anything inside its innermost
parentheses, an operand, or something behind an operand. -/
inductive Stage
  | entered
  | due
  | complete

/-- Tokens with which an expression can begin, with so many open parentheses. -/
inductive Begun : Stage → Nat → List Token → Prop
  | start : Begun .entered 0 []
  | opening {n : Nat} {ts : List Token} :
      Begun .due n ts → Begun .entered (n + 1) (ts ++ [.opening])
  | due {n : Nat} {ts : List Token} : Begun .entered n ts → Begun .due n ts
  | operator {n : Nat} {ts : List Token} (op : Operator) :
      Begun .complete n ts → Begun .due n (ts ++ [.operator op])
  | complete {n : Nat} {ts us : List Token} {t : Formula} :
      Begun .entered n ts → Derives .expression us t → Begun .complete n (ts ++ us)

namespace Begun

variable {n : Nat} {ts us : List Token} {t : Formula}

theorem atom (h : Begun .due n ts) (ha : Derives .atom us t) : Begun .complete n (ts ++ us) := by
  cases h with
  | due entered => exact entered.complete (ha.ofAtom .expression)
  | operator op left =>
    cases left with
    | complete entered expression =>
      have loosest : Category.expression.level ≤ op.category.level := by cases op <;> decide
      obtain ⟨v, more⟩ := expression.extend loosest ha
      simp only [List.append_assoc, List.singleton_append]
      exact entered.complete more

theorem closing (h : Begun .complete (n + 1) ts) : Begun .complete n (ts ++ [.closing]) := by
  cases h with
  | complete entered expression =>
    cases entered with
    | opening due =>
      rw [List.append_assoc, List.append_assoc, List.singleton_append]
      exact due.atom expression.parentheses

theorem derives_of_complete (h : Begun .complete 0 ts) : ∃ t, Derives .expression ts t := by
  cases h with
  | complete entered expression =>
    cases entered with
    | start => exact ⟨_, expression⟩

def stageAfter (before : Token) : Stage := if before.endsOperand then .complete else .due

def stageBefore (t : Token) : Stage := if t.startsOperand then .due else .complete

theorem stageAfter_eq {before t : Token} (turn : Token.TakesTurns before t) :
    stageAfter before = stageBefore t := by
  rw [stageAfter, stageBefore, turn]
  cases before.endsOperand <;> rfl

/-- An expression that has begun goes on as long as operands and operators take turns. -/
theorem derives {before : Token} {rest : List Token} (h : Begun (stageAfter before) n ts)
    (numerals : ∀ m, .operand m ∈ rest → IsNumeral m) (balanced : Token.Balanced n rest)
    (turns : (before :: (rest ++ [.closing])).IsChain Token.TakesTurns) :
    ∃ t, Derives .expression (ts ++ rest) t := by
  induction rest generalizing before n ts with
  | nil =>
    obtain ⟨turn, -⟩ := List.isChain_cons_cons.mp turns
    rw [stageAfter_eq turn] at h
    obtain rfl : n = 0 := balanced
    rw [List.append_nil]
    exact derives_of_complete h
  | cons t rest ih =>
    obtain ⟨turn, turns⟩ := List.isChain_cons_cons.mp turns
    rw [stageAfter_eq turn] at h
    have others : ∀ m, .operand m ∈ rest → IsNumeral m :=
      fun m mem => numerals m (List.mem_cons_of_mem t mem)
    rw [List.append_cons]
    cases t with
    | operand m =>
      have onward : Begun (stageAfter (.operand m)) n (ts ++ [.operand m]) :=
        atom h (.numeral (numerals m List.mem_cons_self))
      exact ih onward others balanced turns
    | opening =>
      have onward : Begun (stageAfter .opening) (n + 1) (ts ++ [.opening]) := (opening h).due
      exact ih onward others balanced turns
    | operator op =>
      have onward : Begun (stageAfter (.operator op)) n (ts ++ [.operator op]) := operator op h
      exact ih onward others balanced turns
    | closing =>
      obtain ⟨opened, balanced⟩ := balanced
      obtain ⟨n, rfl⟩ := Nat.exists_eq_add_one.mpr opened
      have onward : Begun (stageAfter .closing) n (ts ++ [.closing]) := closing h
      exact ih onward others balanced turns

end Begun

/-- **The expressions are the tokens in which operands and operators take turns** and parentheses
match. -/
theorem exists_derives_iff {ts : List Token} :
    (∃ t, Derives .expression ts t) ↔
      (∀ m, .operand m ∈ ts → IsNumeral m) ∧ Token.Alternates ts ∧ Token.Balanced 0 ts := by
  constructor
  · rintro ⟨t, derives⟩
    have closed := (derives.balanced_append 0 []).mpr rfl
    rw [List.append_nil] at closed
    exact ⟨derives.numerals, derives.alternates, closed⟩
  · rintro ⟨numerals, turns, balanced⟩
    have begun : Begun (Begun.stageAfter .opening) 0 [] := Begun.start.due
    exact begun.derives numerals balanced turns

end MacroShell
