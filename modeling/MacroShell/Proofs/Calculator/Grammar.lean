import MacroShell.Proofs.Calculator.Cutting

/-!
# The grammar of expressions

    expression := term (('+' | '-') term)*
    term       := power (('*' | '/') power)*
    power      := atom ('^' power)?
    atom       := numeral | '(' expression ')'

`Derives` relates each category to its token lists and to the formula that such a list stands for;
`Renders` allows space anywhere in the text.
-/

namespace MacroShell

/-- A formula without parentheses: numerals joined by operators. -/
inductive Formula
  | leaf (numeral : Text)
  | node (op : Operator) (left right : Formula)
  deriving DecidableEq

namespace Formula

def postOrder : Formula → List Token
  | leaf numeral => [.operand numeral]
  | node op left right => left.postOrder ++ right.postOrder ++ [.operator op]

/-- The value of a formula, its left side first. -/
def value {α : Type} (arithmetic : Arithmetic α) : Formula → Except CalculationError α
  | leaf numeral =>
    match arithmetic.read? numeral with
    | some x => .ok x
    | none => .error (.invalidNumber numeral)
  | node op left right =>
    match left.value arithmetic with
    | .error e => .error e
    | .ok x =>
      match right.value arithmetic with
      | .error e => .error e
      | .ok y => arithmetic.apply x y op

end Formula

inductive Category
  | expression
  | term
  | power
  | atom
  deriving DecidableEq

/-- The category whose parts an operator joins. -/
def Operator.category : Operator → Category
  | add | sub => .expression
  | mul | div => .term
  | pow => .power

/-- Which tokens belong to a category, and the formula they stand for. The repetitions of the
grammar grow at their right end, so that their operators associate to the left. -/
inductive Derives : Category → List Token → Formula → Prop
  | numeral {n : Text} : IsNumeral n → Derives .atom [.operand n] (.leaf n)
  | parentheses {ts : List Token} {t : Formula} :
      Derives .expression ts t → Derives .atom (.opening :: (ts ++ [.closing])) t
  | atom {ts : List Token} {t : Formula} : Derives .atom ts t → Derives .power ts t
  | raise {ts us : List Token} {t u : Formula} :
      Derives .atom ts t → Derives .power us u →
      Derives .power (ts ++ .operator .pow :: us) (.node .pow t u)
  | power {ts : List Token} {t : Formula} : Derives .power ts t → Derives .term ts t
  | product {op : Operator} {ts us : List Token} {t u : Formula} :
      op.category = .term → Derives .term ts t → Derives .power us u →
      Derives .term (ts ++ .operator op :: us) (.node op t u)
  | term {ts : List Token} {t : Formula} : Derives .term ts t → Derives .expression ts t
  | sum {op : Operator} {ts us : List Token} {t u : Formula} :
      op.category = .expression → Derives .expression ts t → Derives .term us u →
      Derives .expression (ts ++ .operator op :: us) (.node op t u)

/-- The text consists of the texts of the tokens, in order, and of space put in anywhere. -/
def Renders (tokens : List Token) (text : Text) : Prop :=
  text.filter (!isSpace ·) = tokens.flatMap Token.text

instance (tokens : List Token) (text : Text) : Decidable (Renders tokens text) :=
  inferInstanceAs (Decidable (_ = _))

theorem Derives.ofAtom {ts : List Token} {t : Formula} (h : Derives .atom ts t) :
    ∀ c, Derives c ts t
  | .atom => h
  | .power => h.atom
  | .term => h.atom.power
  | .expression => h.atom.power.term

theorem Derives.toExpression {c : Category} {ts : List Token} {t : Formula}
    (h : Derives c ts t) : Derives .expression ts t := by
  cases c with
  | expression => exact h
  | term => exact h.term
  | power => exact h.power.term
  | atom => exact h.ofAtom .expression

/-- Redundant parentheses around a part of an expression do not change what it stands for. -/
theorem Derives.parenthesized {c : Category} {ts : List Token} {t : Formula}
    (h : Derives c ts t) : Derives c (.opening :: (ts ++ [.closing])) t :=
  h.toExpression.parentheses.ofAtom c

/-! ## Cutting a rendering into tokens -/

namespace Token

/-- The operands of an expression are numerals. -/
theorem ofExpression_numerals {text : Text} {ts : List Token} (h : ofExpression text = .ok ts) :
    ∀ m, .operand m ∈ ts → IsNumeral m :=
  (ofExpression_eq_ok_iff.mp h).2.2.numerals

end Token

/-- Every operand of a derivation stands at its end or before a symbol. -/
theorem Derives.isMaximal {c : Category} {ts : List Token} {t : Formula} (h : Derives c ts t) :
    Token.IsMaximal ts := by
  induction h with
  | numeral hn => exact ⟨hn, nofun, trivial⟩
  | @parentheses ts t _ ih =>
    have closed : Token.IsMaximal (ts ++ [.closing]) := ih.append (by simp) trivial
    exact closed.symbol (by simp)
  | atom _ ih | power _ ih | term _ ih => exact ih
  | raise _ _ iht ihu | product _ _ _ iht ihu | sum _ _ _ iht ihu =>
    exact iht.append (by simp) ihu

theorem Derives.text_ne_nil {c : Category} {ts : List Token} {t : Formula}
    (h : Derives c ts t) : ts.flatMap Token.text ≠ [] := by
  induction h with
  | numeral hn => simpa [Token.text] using hn.1
  | parentheses => simp [Token.text]
  | atom _ ih | power _ ih | term _ ih => exact ih
  | raise | product | sum => simp [Token.text]

theorem Renders.not_isBlank {ts : List Token} {text : Text} (h : Renders ts text)
    (ht : ts.flatMap Token.text ≠ []) : text.isBlank = false := by
  rw [← h] at ht
  obtain ⟨c, hc⟩ := List.exists_mem_of_ne_nil _ ht
  obtain ⟨mem, solid⟩ := List.mem_filter.mp hc
  rw [Text.isBlank, List.all_eq_false]
  exact ⟨c, mem, by simpa using solid⟩

/-- Space does not matter, and the texts of neighbours are not confused. -/
theorem Derives.ofExpression {c : Category} {ts : List Token} {t : Formula} {text : Text}
    (h : Derives c ts t) (hr : Renders ts text) : Token.ofExpression text = .ok ts :=
  Token.ofExpression_eq_ok_iff.mpr ⟨hr.not_isBlank h.text_ne_nil, hr.symm, h.isMaximal⟩

end MacroShell
