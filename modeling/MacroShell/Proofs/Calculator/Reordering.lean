import MacroShell.Proofs.Calculator.Malformed

/-!
# Reordering tokens

Tokens are put into postfix order whether or not they are an expression, as long as their
parentheses match. Operators are put off until their time comes, but operands stay in their order.
-/

namespace MacroShell
namespace Token

/-- Somewhere more parentheses have been closed than opened, or in the end not as many. -/
def OutOfBalance (ts : List Token) : Prop :=
  (∃ front, front <+: ts ∧ front.count .opening < front.count .closing) ∨
    ts.count .opening ≠ ts.count .closing

theorem forall_prefix_cons {P : List Token → Prop} {t : Token} {rest : List Token} :
    (∀ front, front <+: t :: rest → P front) ↔ P [] ∧ ∀ front, front <+: rest → P (t :: front) := by
  constructor
  · intro all
    exact ⟨all [] List.nil_prefix, fun front h => all _ (List.cons_prefix_cons.mpr ⟨rfl, h⟩)⟩
  · rintro ⟨nil, cons⟩ front h
    rcases List.prefix_cons_iff.mp h with rfl | ⟨others, rfl, behind⟩
    · exact nil
    · exact cons others behind

/-- Each beginning may close those that are open before it and its own, and all of them are closed in
the end. -/
theorem balanced_iff {n : Nat} {ts : List Token} :
    Balanced n ts ↔ (∀ front, front <+: ts → front.count .closing ≤ n + front.count .opening) ∧
      ts.count .closing = n + ts.count .opening := by
  induction ts generalizing n with
  | nil => simp [Balanced, eq_comm]
  | cons t rest ih =>
    rw [forall_prefix_cons]
    cases t with
    | operator op => simp [Balanced, ih]
    | operand numeral => simp [Balanced, ih]
    | opening =>
      have one_more (k : Nat) : n + 1 + k = n + (k + 1) := by omega
      simp [Balanced, ih, one_more]
    | closing =>
      cases n with
      | zero =>
        -- Already the first token closes more than was open.
        simp only [Balanced, Nat.lt_irrefl, false_and, false_iff, not_and]
        rintro ⟨-, within⟩
        have first := within [] List.nil_prefix
        simp at first
      | succ n =>
        have one_more (k : Nat) : n + 1 + k = n + k + 1 := by omega
        simp [Balanced, ih, one_more]

theorem balanced_zero_iff {ts : List Token} : Balanced 0 ts ↔ ¬ OutOfBalance ts := by
  rw [balanced_iff, OutOfBalance, not_or, not_exists]
  simp only [not_and, not_lt, Nat.zero_add, ne_eq, not_not, eq_comm]

/-! ## The order of operands -/

theorem filter_waiting (stack : List Waiting) : (waiting stack).filter isOperand = [] := by
  rw [List.filter_eq_nil_iff]
  intro t mem
  obtain ⟨w, -, made⟩ := List.mem_filterMap.mp mem
  cases w with
  | opening => cases made
  | operator op =>
    cases made
    exact Bool.false_ne_true

/-- What leaves the stack are operators. -/
theorem filter_popped {stack below : List Waiting} {popped : List Token}
    (h : popped ++ waiting below = waiting stack) : popped.filter isOperand = [] := by
  have all := filter_waiting stack
  rw [← h, List.filter_append] at all
  exact (List.append_eq_nil_iff.mp all).1

theorem reorder?_operands {stack : List Waiting} {ts out : List Token}
    (h : reorder? stack ts = some out) : out.filter isOperand = ts.filter isOperand := by
  induction ts generalizing stack out with
  | nil =>
    rw [popAll?_eq_some h]
    exact filter_waiting stack
  | cons t rest ih =>
    cases t with
    | operator op =>
      obtain ⟨more, reordered, rfl⟩ := Option.map_eq_some_iff.mp h
      rw [List.filter_append, filter_popped (popBefore_eq op stack).1, ih reordered]
      rfl
    | opening => exact ih h
    | closing =>
      obtain ⟨⟨popped, below⟩, found, more⟩ := Option.bind_eq_some_iff.mp h
      obtain ⟨more, reordered, rfl⟩ := Option.map_eq_some_iff.mp more
      rw [List.filter_append, filter_popped (popOpening?_eq_some found).1, ih reordered]
      rfl
    | operand n =>
      obtain ⟨more, reordered, rfl⟩ := Option.map_eq_some_iff.mp h
      rw [List.filter_cons_of_pos rfl, List.filter_cons_of_pos rfl, ih reordered]

/-! ## What is refused and what is kept -/

theorem isPart_eq (t : Token) : t.isPart = decide (t ≠ .opening ∧ t ≠ .closing) := by
  cases t <;> rfl

/-- **Reordering drops the parentheses and loses nothing else.** Any tokens whose parentheses match
can be put into postfix order: without the parentheses, with all other tokens as often as they were
there, and with the operands in the order they had. Tokens are refused exactly if their parentheses
are out of balance. -/
theorem toPostfix_lossless (ts : List Token) :
    (∀ e, toPostfix ts = .error e ↔ e = .unbalancedParentheses ∧ OutOfBalance ts) ∧
    (¬ OutOfBalance ts → ∃ out, toPostfix ts = .ok out ∧ .opening ∉ out ∧ .closing ∉ out ∧
      out.Perm (ts.filter fun t => t ≠ .opening ∧ t ≠ .closing) ∧
      out.filter isOperand = ts.filter isOperand) := by
  have reordered : (reorder? [] ts).isSome = true ↔ ¬ OutOfBalance ts :=
    reorder?_isSome_iff.trans balanced_zero_iff
  rw [toPostfix]
  cases found : reorder? [] ts with
  | none =>
    have refused : OutOfBalance ts := by simpa [found] using reordered
    refine ⟨fun e => ⟨fun h => ?_, fun h => ?_⟩, fun balanced => absurd refused balanced⟩
    · cases h
      exact ⟨rfl, refused⟩
    · rw [h.1]
  | some out =>
    have balanced : ¬ OutOfBalance ts := by simpa [found] using reordered
    have kept : out.Perm (ts.filter fun t => t ≠ .opening ∧ t ≠ .closing) := by
      rw [← List.filter_congr fun t _ => isPart_eq t]
      exact reorder?_perm found
    refine ⟨fun e => ⟨fun h => ?_, fun h => absurd h.2 balanced⟩,
      fun _ => ⟨out, rfl, ?_, ?_, kept, ?_⟩⟩
    · cases h
    · intro mem
      simpa using List.of_mem_filter (kept.mem_iff.mp mem)
    · intro mem
      simpa using List.of_mem_filter (kept.mem_iff.mp mem)
    · exact reorder?_operands found

/-- Tokens in no order that makes sense are reordered all the same, if their parentheses match; as
many of both do not match where the first one closes. -/
theorem toPostfix_lossless_jumbled :
    let ts : List Token := [.operator .add, .opening, .operand ['1'], .operand ['2'], .closing,
      .operator .pow, .operand ['1']]
    let crossed : List Token := [.closing, .opening]
    OutOfBalance crossed ∧ toPostfix crossed = .error .unbalancedParentheses ∧
      ¬ OutOfBalance ts ∧ ∃ out, toPostfix ts = .ok out ∧ .opening ∉ out ∧ .closing ∉ out ∧
        out.Perm (ts.filter fun t => t ≠ .opening ∧ t ≠ .closing) ∧
        out.filter isOperand = [.operand ['1'], .operand ['2'], .operand ['1']] := by
  intro ts crossed
  have out : OutOfBalance crossed := Or.inl ⟨[.closing], by decide, by decide⟩
  have balanced : ¬ OutOfBalance ts := balanced_zero_iff.mp (by simp [ts, Balanced])
  exact ⟨out, ((toPostfix_lossless crossed).1 _).mpr ⟨rfl, out⟩, balanced,
    (toPostfix_lossless ts).2 balanced⟩

end Token
end MacroShell
