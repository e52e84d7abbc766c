import MacroShell.Proofs.Calculator.Grammar

/-!
# Expressions have the value of their formula

Operators wait on a stack until the operator after their right operand is known. What is read of an
expression can therefore be moved out in front, provided that no waiting operator interferes from
the left (`Admits`) and that nothing after it binds its operands more tightly (`Ends`).
-/

namespace MacroShell
namespace Category

/-- How tightly the operators of a category bind; atoms have none. -/
def level : Category → Nat
  | .expression => 1
  | .term => 2
  | .power => 3
  | .atom => 4

/-- A part of the category can begin above this stack: an operator on top of it goes before none
of the operators in the part. -/
def Admits (c : Category) : List Waiting → Prop
  | .operator top :: _ => ∀ o : Operator, c.level ≤ o.precedence → top.goesBefore o = false
  | _ => True

/-- A part of the category is complete before these tokens: they do not go on with an operand,
and all its operators go before the next one. -/
def Ends (c : Category) : List Token → Prop
  | [] | .closing :: _ => True
  | .operator op :: _ => ∀ o : Operator, c.level ≤ o.precedence → o.goesBefore op = true
  | .opening :: _ | .operand _ :: _ => False

theorem Admits.tighter {c d : Category} (h : c.level ≤ d.level) {stack : List Waiting}
    (ha : c.Admits stack) : d.Admits stack := by
  cases stack with
  | nil => exact ha
  | cons w stack =>
    cases w with
    | operator top => exact fun o ho => ha o (Nat.le_trans h ho)
    | opening => exact ha

theorem Ends.tighter {c d : Category} (h : c.level ≤ d.level) {rest : List Token}
    (he : c.Ends rest) : d.Ends rest := by
  cases rest with
  | nil => exact he
  | cons t rest =>
    cases t with
    | operator op => exact fun o ho => he o (Nat.le_trans h ho)
    | opening | closing | operand => exact he

end Category

namespace Operator

theorem level_category (op : Operator) : op.category.level = op.precedence := by
  cases op <;> rfl

/-- An operator waits for a right operand that binds more tightly. -/
theorem admits_of_lt {op : Operator} {c : Category} (h : op.precedence < c.level)
    (stack : List Waiting) : c.Admits (.operator op :: stack) := by
  intro o ho
  have looser : op.precedence < o.precedence := Nat.lt_of_lt_of_le h ho
  simp only [goesBefore, Bool.or_eq_false_iff, decide_eq_false_iff_not, Bool.and_eq_false_iff,
    beq_eq_false_iff_ne]
  exact ⟨by omega, Or.inl (by omega)⟩

/-- Powers associate to the right. -/
theorem admits_pow (stack : List Waiting) : Category.power.Admits (.operator pow :: stack) := by
  intro o ho
  cases o with
  | pow => rfl
  | add | sub | mul | div => exact absurd ho (by decide)

theorem ends_atom (op : Operator) (rest : List Token) :
    Category.atom.Ends (.operator op :: rest) := by
  intro o ho
  cases o <;> exact absurd ho (by decide)

/-- The other operators associate to the left. -/
theorem ends_of_ne_pow {op : Operator} (h : op ≠ pow) (rest : List Token) :
    op.category.Ends (.operator op :: rest) := by
  intro o ho
  rw [level_category] at ho
  have left : (op != pow) = true := by simpa using h
  rcases Nat.lt_or_eq_of_le ho with tighter | same
  · simp [goesBefore, tighter]
  · simp [goesBefore, same, left]

end Operator

namespace Token

theorem map_append_map (out more : List Token) (r : Option (List Token)) :
    (r.map (more ++ ·)).map (out ++ ·) = r.map (out ++ more ++ ·) := by
  cases r <;> simp

/-- An operator is put out where the part it belongs to is complete. -/
theorem reorder?_release {c : Category} {op : Operator} (hc : c.level ≤ op.precedence)
    {rest : List Token} (he : c.Ends rest) (stack : List Waiting) :
    reorder? (.operator op :: stack) rest = (reorder? stack rest).map ([.operator op] ++ ·) := by
  cases rest with
  | nil => rfl
  | cons t rest =>
    cases t with
    | operator next =>
      have before : op.goesBefore next = true := he op hc
      simp only [reorder?, Waiting.popBefore, before, ↓reduceIte, Option.map_map]
      rfl
    | closing =>
      simp only [reorder?, Waiting.popOpening?]
      cases Waiting.popOpening? stack with
      | none => rfl
      | some popped => simp [Function.comp_def]
    | opening | operand => exact he.elim

/-- An operator is laid on a stack that admits it. -/
theorem reorder?_operator {op : Operator} {stack : List Waiting}
    (ha : op.category.Admits stack) (rest : List Token) :
    reorder? stack (.operator op :: rest) = reorder? (.operator op :: stack) rest := by
  have stays : Waiting.popBefore op stack = ([], stack) := by
    cases stack with
    | nil => rfl
    | cons w stack =>
      cases w with
      | opening => rfl
      | operator top =>
        have stays : top.goesBefore op = false := ha op (Nat.le_of_eq op.level_category)
        simp [Waiting.popBefore, stays]
  simp [reorder?, stays]

end Token

/-! ## Reading a part of an expression -/

/-- Tokens of a category are read as a formula: it is put out in postfix order, and the stack below
and the tokens behind are taken up as if these tokens were not there. -/
def ReadAs (c : Category) (ts : List Token) (t : Formula) : Prop :=
  ∀ ⦃stack : List Waiting⦄ ⦃rest : List Token⦄, c.Admits stack → c.Ends rest →
    Token.reorder? stack (ts ++ rest) = (Token.reorder? stack rest).map (t.postOrder ++ ·)

namespace ReadAs

theorem looser {c d : Category} {ts : List Token} {t : Formula} (h : ReadAs d ts t)
    (level : c.level ≤ d.level) : ReadAs c ts t :=
  fun _ _ ha he => h (ha.tighter level) (he.tighter level)

theorem numeral (n : Text) : ReadAs .atom [.operand n] (.leaf n) :=
  fun _ _ _ _ => rfl

/-- Inside parentheses nothing waits, whatever waits outside. -/
theorem parentheses {ts : List Token} {t : Formula} (h : ReadAs .expression ts t) :
    ReadAs .atom (.opening :: (ts ++ [.closing])) t := by
  intro stack rest _ _
  have inside := @h (.opening :: stack) (.closing :: rest) trivial trivial
  have close : Token.reorder? (.opening :: stack) (.closing :: rest) =
      Token.reorder? stack rest := by
    simp [Token.reorder?, Waiting.popOpening?]
  rw [close] at inside
  rw [List.cons_append, List.append_assoc, Token.reorder?]
  exact inside

/-- The left operand is complete when its operator comes, and waits for nothing; the right one is
read above the operator. -/
theorem node {op : Operator} {c d : Category} {ts us : List Token} {t u : Formula}
    (ht : ReadAs c ts t) (hu : ReadAs d us u)
    (left : op.category.level ≤ c.level) (complete : ∀ rest, c.Ends (.operator op :: rest))
    (right : op.category.level ≤ d.level) (above : ∀ stack, d.Admits (.operator op :: stack)) :
    ReadAs op.category (ts ++ .operator op :: us) (.node op t u) := by
  intro stack rest ha he
  have level : op.category.level ≤ op.precedence := Nat.le_of_eq op.level_category
  rw [List.append_assoc, List.cons_append, ht (ha.tighter left) (complete (us ++ rest)),
    Token.reorder?_operator ha, hu (above stack) (he.tighter right),
    Token.reorder?_release level he, Token.map_append_map, Token.map_append_map]
  rfl

theorem raise {ts us : List Token} {t u : Formula} (ht : ReadAs .atom ts t)
    (hu : ReadAs .power us u) : ReadAs .power (ts ++ .operator .pow :: us) (.node .pow t u) :=
  node ht hu (by decide) (Operator.ends_atom .pow) (Nat.le_refl _) Operator.admits_pow

theorem leftAssociative {op : Operator} {c d : Category} {ts us : List Token} {t u : Formula}
    (hop : op.category = c) (ne : op ≠ .pow) (tighter : c.level < d.level)
    (ht : ReadAs c ts t) (hu : ReadAs d us u) :
    ReadAs c (ts ++ .operator op :: us) (.node op t u) := by
  subst hop
  have below : op.precedence < d.level := op.level_category ▸ tighter
  exact node ht hu (Nat.le_refl _) (Operator.ends_of_ne_pow ne) (Nat.le_of_lt tighter)
    (Operator.admits_of_lt below)

end ReadAs

/-- **A part of an expression comes out in postfix order.** -/
theorem Derives.readAs {c : Category} {ts : List Token} {t : Formula} (h : Derives c ts t) :
    ReadAs c ts t := by
  induction h with
  | @numeral n => exact ReadAs.numeral n
  | parentheses _ ih => exact ih.parentheses
  | atom _ ih | power _ ih | term _ ih => exact ih.looser (by decide)
  | raise _ _ iht ihu => exact iht.raise ihu
  | product hop _ _ iht ihu =>
    exact iht.leftAssociative hop (by rintro rfl; cases hop) (by decide) ihu
  | sum hop _ _ iht ihu =>
    exact iht.leftAssociative hop (by rintro rfl; cases hop) (by decide) ihu

theorem Derives.toPostfix {ts : List Token} {t : Formula} (h : Derives .expression ts t) :
    Token.toPostfix ts = .ok t.postOrder := by
  have read := @Derives.readAs _ _ _ h [] [] trivial trivial
  have out : Token.reorder? [] ts = some t.postOrder := by
    simpa [Token.reorder?, Waiting.popAll?] using read
  simp [Token.toPostfix, out]

/-! ## Evaluating a formula -/

namespace Formula

variable {α : Type} (arithmetic : Arithmetic α)

/-- A formula in postfix order leaves its value on the stack, or the error it fails with. -/
theorem run_postOrder (t : Formula) : ∀ (stack : List α) (rest : List Token),
    arithmetic.run stack (t.postOrder ++ rest) =
      (t.value arithmetic).bind fun x => arithmetic.run (x :: stack) rest := by
  induction t with
  | leaf numeral =>
    intro stack rest
    simp only [postOrder, List.singleton_append, Arithmetic.run, Arithmetic.step, Token.text, value]
    cases arithmetic.read? numeral <;> rfl
  | node op left right ihl ihr =>
    intro stack rest
    rw [postOrder, List.append_assoc, List.append_assoc, ihl, value]
    cases left.value arithmetic with
    | error e => rfl
    | ok x =>
      simp only [Except.bind]
      rw [ihr]
      cases right.value arithmetic with
      | error e => rfl
      | ok y =>
        simp only [Except.bind, List.singleton_append, Arithmetic.run, Arithmetic.step]
        cases arithmetic.apply x y op <;> rfl

theorem evaluate_postOrder (t : Formula) :
    arithmetic.evaluate t.postOrder = t.value arithmetic := by
  have run := t.run_postOrder arithmetic [] []
  rw [List.append_nil] at run
  rw [Arithmetic.evaluate, run]
  cases t.value arithmetic <;> rfl

end Formula

/-- **Expressions have the value of their formula.** A rendering of an expression is cut into its
tokens, these are put into the postfix order of the formula, and the calculator answers what the
formula gives from left to right, be it a number or the first error. -/
theorem Derives.calculate_eq_value {α : Type} (arithmetic : Arithmetic α) {ts : List Token}
    {t : Formula} {text : Text} (h : Derives .expression ts t) (hr : Renders ts text) :
    Token.ofExpression text = .ok ts ∧ Token.toPostfix ts = .ok t.postOrder ∧
      arithmetic.calculate text = t.value arithmetic := by
  refine ⟨h.ofExpression hr, h.toPostfix, ?_⟩
  simp only [Arithmetic.calculate, h.ofExpression hr, bind, Except.bind, h.toPostfix]
  exact t.evaluate_postOrder arithmetic

/-- Subtraction associates to the left and powers to the right, and extra parentheses and space
change nothing. -/
theorem calculate_left_and_right :
    let ts : List Token :=
      [.opening, .opening, .operand ['9'], .closing, .operator .sub, .operand ['4'],
        .operator .sub, .operand ['.', '5'], .closing, .operator .pow, .operand ['2'],
        .operator .pow, .operand ['3']]
    let t : Formula := .node .pow
      (.node .sub (.node .sub (.leaf ['9']) (.leaf ['4'])) (.leaf ['.', '5']))
      (.node .pow (.leaf ['2']) (.leaf ['3']))
    let text : Text := "((9)- 4 -.5) ^2^ 3 ".toList
    Derives .expression ts t ∧ Renders ts text ∧ Token.ofExpression text = .ok ts ∧
      Token.toPostfix ts = .ok t.postOrder ∧
      Arithmetic.binary64.calculate text = t.value Arithmetic.binary64 := by
  intro ts t text
  have nine : Derives .atom _ _ := .numeral (n := ['9']) (by decide)
  have four : Derives .atom _ _ := .numeral (n := ['4']) (by decide)
  have half : Derives .atom _ _ := .numeral (n := ['.', '5']) (by decide)
  have two : Derives .atom _ _ := .numeral (n := ['2']) (by decide)
  have three : Derives .atom _ _ := .numeral (n := ['3']) (by decide)
  have difference : Derives .expression _ _ := @Derives.sum .sub _ _ _ _ rfl
    (@Derives.sum .sub _ _ _ _ rfl nine.parenthesized.toExpression (four.ofAtom .term))
    (half.ofAtom .term)
  have derives : Derives .expression ts t :=
    (difference.parentheses.raise (two.raise three.atom)).toExpression
  have renders : Renders ts text := by decide
  exact ⟨derives, renders, derives.calculate_eq_value .binary64 renders⟩

end MacroShell
