import Mathlib.Data.List.Basic
import Mathlib.Data.List.Induction
import MacroShell.Number.Integer
import MacroShell.Proofs.Text.Space

/-!
# Digits of a count

A count is written in plain digits without a zero in front. Writing and reading are inverse to each
other between the positive numbers and their counts.
-/

namespace MacroShell

/-! ## Plain digits -/

theorem toNat_of_isDigit {c : Char} (h : c.isDigit = true) : 48 ≤ c.toNat ∧ c.toNat ≤ 57 := by
  simpa [Char.isDigit, UInt32.le_iff_toNat_le] using h

theorem exists_digitChar {c : Char} (h : c.isDigit = true) : ∃ d < 10, Nat.digitChar d = c := by
  have codes := toNat_of_isDigit h
  have all : ∀ d < 10, Nat.digitChar d = Char.ofNat (48 + d) := by decide
  obtain ⟨d, code⟩ := Nat.exists_eq_add_of_le codes.1
  refine ⟨d, by omega, ?_⟩
  rw [all d (by omega), ← code, Char.ofNat_toNat]

theorem digitValue_digitChar : ∀ d < 10, digitValue (Nat.digitChar d) = d := by decide

theorem isDecimal_of_isDigit {c : Char} (h : c.isDigit = true) : isDecimal c = true := by
  have all : ∀ d < 10, isDecimal (Nat.digitChar d) = true := by decide
  obtain ⟨d, small, rfl⟩ := exists_digitChar h
  exact all d small

theorem isSpace_of_isDigit {c : Char} (h : c.isDigit = true) : isSpace c = false := by
  have all : ∀ d < 10, isSpace (Nat.digitChar d) = false := by decide
  obtain ⟨d, small, rfl⟩ := exists_digitChar h
  exact all d small

/-! ## Reading and writing -/

theorem isDigit_of_mem_naturalText {n : Nat} {c : Char} (h : c ∈ naturalText n) :
    c.isDigit = true :=
  Nat.isDigit_of_mem_toDigits (by decide) (by decide) h

theorem isDecimal_of_mem_naturalText {n : Nat} {c : Char} (h : c ∈ naturalText n) :
    isDecimal c = true :=
  isDecimal_of_isDigit (isDigit_of_mem_naturalText h)

theorem naturalText_ne_nil (n : Nat) : naturalText n ≠ [] := Nat.toDigits_ne_nil

theorem length_naturalText_le_iff {n k : Nat} (h : 0 < k) :
    (naturalText n).length ≤ k ↔ n < tenTo k :=
  Nat.length_toDigits_le_iff (by decide) h

theorem digitsValue_append_singleton (digits : Text) (c : Char) :
    digitsValue (digits ++ [c]) = 10 * digitsValue digits + digitValue c :=
  List.foldl_append

theorem digitsValue_eq_ofDigitChars {digits : Text} (h : ∀ c ∈ digits, c.isDigit = true) :
    digitsValue digits = Nat.ofDigitChars 10 digits 0 := by
  have value : ∀ d < 10, (Nat.digitChar d).toNat - '0'.toNat = d := by decide
  induction digits using List.reverseRecOn with
  | nil => rfl
  | append_singleton digits c ih =>
    obtain ⟨front, last⟩ := List.forall_mem_append.mp h
    obtain ⟨d, small, rfl⟩ := exists_digitChar (last c List.mem_cons_self)
    rw [digitsValue_append_singleton, ih front, digitValue_digitChar d small,
      Nat.ofDigitChars_append, Nat.ofDigitChars_cons, value d small]
    rfl

theorem digitsValue_naturalText (n : Nat) : digitsValue (naturalText n) = n := by
  rw [digitsValue_eq_ofDigitChars fun c mem => isDigit_of_mem_naturalText mem]
  exact Nat.ofDigitChars_toDigits (by decide) (by decide)

/-- A run of plain digits that does not start with a zero. -/
structure IsCount (t : Text) : Prop where
  nonempty : t ≠ []
  digits : ∀ c ∈ t, c.isDigit = true
  noZero : t.head? ≠ some '0'

theorem head?_naturalText {n : Nat} (h : 0 < n) : (naturalText n).head? ≠ some '0' := by
  induction n using Nat.strongRecOn with
  | ind n ih =>
    rw [naturalText, Nat.toDigits_eq_if (by decide)]
    split
    · rename_i small
      have nonzero : ∀ m < 10, 0 < m → Nat.digitChar m ≠ '0' := by decide
      simpa using nonzero n small h
    · have front := ih (n / 10) (by omega) (by omega)
      rw [List.head?_append_of_ne_nil _ Nat.toDigits_ne_nil]
      exact front

theorem isCount_naturalText {n : Nat} (h : 0 < n) : IsCount (naturalText n) where
  nonempty := naturalText_ne_nil n
  digits := fun _ mem => isDigit_of_mem_naturalText mem
  noZero := head?_naturalText h

theorem IsCount.naturalText_digitsValue {t : Text} (h : IsCount t) :
    0 < digitsValue t ∧ naturalText (digitsValue t) = t := by
  obtain ⟨nonempty, digits, noZero⟩ := h
  induction t using List.reverseRecOn with
  | nil => exact absurd rfl nonempty
  | append_singleton t c ih =>
    obtain ⟨front, last⟩ := List.forall_mem_append.mp digits
    obtain ⟨d, small, rfl⟩ := exists_digitChar (last c List.mem_cons_self)
    rw [digitsValue_append_singleton, digitValue_digitChar d small]
    by_cases single : t = []
    · subst single
      have positive : 0 < d := by
        apply Nat.pos_of_ne_zero
        rintro rfl
        exact noZero rfl
      have value : 10 * digitsValue [] + d = d := Nat.zero_add d
      rw [value]
      exact ⟨positive, Nat.toDigits_of_lt_base small⟩
    · rw [List.head?_append_of_ne_nil _ single] at noZero
      obtain ⟨positive, same⟩ := ih single front noZero
      refine ⟨by omega, ?_⟩
      rw [naturalText, ← Nat.toDigits_append_toDigits (by decide) positive small,
        Nat.toDigits_of_lt_base small]
      exact congrArg (· ++ [Nat.digitChar d]) same

/-- The counts are what the positive numbers are written as. -/
theorem isCount_iff {t : Text} : IsCount t ↔ ∃ n, 0 < n ∧ naturalText n = t := by
  constructor
  · intro count
    exact ⟨digitsValue t, count.naturalText_digitsValue⟩
  · rintro ⟨n, positive, rfl⟩
    exact isCount_naturalText positive

theorem of_isIntegerLiteral {t : Text} (h : isIntegerLiteral t = true) :
    ∀ c ∈ t, isDecimal c = true ∨ c = '-' ∨ c = '+' := by
  have digits : ∀ c ∈ (takeSign t).2, isDecimal c = true := by
    rw [isIntegerLiteral, isDigits, Bool.and_eq_true, List.all_eq_true] at h
    exact h.2
  unfold takeSign at digits
  intro c mem
  split at digits
  · exact (List.mem_cons.mp mem).elim (fun minus => Or.inr (Or.inl minus)) fun rest =>
      Or.inl (digits c rest)
  · exact (List.mem_cons.mp mem).elim (fun plus => Or.inr (Or.inr plus)) fun rest =>
      Or.inl (digits c rest)
  · exact Or.inl (digits c mem)

/-! ## Runs of digits -/

/-- No run of digits in the text is longer than the limit. -/
def HasRunsUpTo (limit : Nat) (t : Text) : Prop :=
  ∀ digits, digits <:+: t → (∀ c ∈ digits, isDecimal c = true) → digits.length ≤ limit

theorem hasRunsUpTo_of_length {limit : Nat} {t : Text} (h : t.length ≤ limit) :
    HasRunsUpTo limit t :=
  fun _ part _ => Nat.le_trans part.length_le h

/-- A run of digits ends at a character that is no digit. -/
theorem HasRunsUpTo.append_cons {limit : Nat} {a b : Text} {c : Char} (ha : HasRunsUpTo limit a)
    (other : isDecimal c = false) (hb : HasRunsUpTo limit b) :
    HasRunsUpTo limit (a ++ c :: b) := by
  intro digits part all
  have stops {run : Text} (front : run <+: c :: b) (within : ∀ d ∈ run, d ∈ digits) : run = [] := by
    rcases List.prefix_cons_iff.mp front with nil | ⟨tail, rfl, -⟩
    · exact nil
    · rw [all c (within c List.mem_cons_self)] at other
      cases other
  rcases List.infix_append_iff.mp part with inA | inB | ⟨left, right, rfl, ends, front⟩
  · exact ha digits inA all
  · rcases List.infix_cons_iff.mp inB with front | inB
    · rw [stops front fun _ mem => mem]
      exact Nat.zero_le limit
    · exact hb digits inB all
  · obtain rfl := stops front fun _ mem => List.mem_append_right left mem
    rw [List.append_nil] at all ⊢
    exact ha left ends.isInfix all

/-! ## The digit limit -/

theorem withinLimit_iff {n : Nat} : withinLimit n = true ↔ (naturalText n).length ≤ digitLimit :=
  decide_eq_true_iff

theorem withinLimit_mono {m n : Nat} (h : m ≤ n) (within : withinLimit n = true) :
    withinLimit m = true := by
  have positive : 0 < digitLimit := by decide
  rw [withinLimit_iff, length_naturalText_le_iff positive] at *
  exact Nat.lt_of_le_of_lt h within

theorem withinLimit_of_lt {n : Nat} (h : n < 100) : withinLimit n = true := by
  have short : (naturalText n).length ≤ 2 := (length_naturalText_le_iff (by decide)).mpr h
  exact withinLimit_iff.mpr (Nat.le_trans short (by decide))

theorem takeSign_of_digits {t : Text} (h : ∀ c ∈ t, c.isDigit = true) : takeSign t = (false, t) := by
  unfold takeSign
  split
  · exact absurd (h '-' List.mem_cons_self) (by decide)
  · exact absurd (h '+' List.mem_cons_self) (by decide)
  · rfl

theorem tenTo_le_tenTo {j k : Nat} (h : j ≤ k) : tenTo j ≤ tenTo k :=
  Nat.pow_le_pow_right (by decide) h

theorem digitsValue_lt (digits : Text) : digitsValue digits < tenTo digits.length := by
  induction digits using List.reverseRecOn with
  | nil => exact Nat.zero_lt_one
  | append_singleton digits c ih =>
    have digit : digitValue c < 10 := by
      rw [digitValue, digitValue?]
      cases decimalRanges.offset? c.toNat with
      | none => decide
      | some offset => exact Nat.mod_lt _ (by decide)
    have step : tenTo (digits.length + 1) = tenTo digits.length * 10 := rfl
    rw [digitsValue_append_singleton, List.length_append, List.length_singleton, step]
    omega

theorem isIntegerLiteral_of_readInteger? {t : Text} {n : Int} (h : readInteger? t = some n) :
    isIntegerLiteral t.trim = true := by
  by_contra other
  rw [readInteger?, if_neg other] at h
  cases h

theorem natAbs_signed (negative : Bool) (n : Nat) : (signed negative n).natAbs = n := by
  rw [signed]
  split <;> omega

/-- What is read can be written. -/
theorem withinLimit_of_readInteger? {t : Text} {n : Int} (h : readInteger? t = some n) :
    withinLimit n.natAbs = true := by
  rw [readInteger?, integerValue?, digitsValue?] at h
  split at h
  · split at h
    · rename_i short
      rw [← Option.some.inj h, natAbs_signed, withinLimit_iff,
        length_naturalText_le_iff (by decide)]
      exact Nat.lt_of_lt_of_le (digitsValue_lt _) (tenTo_le_tenTo short)
    · cases h
  · cases h

theorem readInteger?_of_not_literal {t : Text} (trimmed : t.trim = t)
    (h : isIntegerLiteral t = false) : readInteger? t = none := by
  rw [readInteger?, trimmed, if_neg (Bool.eq_false_iff.mp h)]

/-! ## Signed integers -/

theorem takeSign_integerText (n : Int) :
    takeSign (integerText n) = (decide (n < 0), naturalText n.natAbs) := by
  cases n with
  | ofNat n => exact takeSign_of_digits fun c => isDigit_of_mem_naturalText
  | negSucc n =>
    rw [decide_eq_true (Int.negSucc_lt_zero n)]
    rfl

theorem isIntegerLiteral_integerText (n : Int) : isIntegerLiteral (integerText n) = true := by
  rw [isIntegerLiteral, takeSign_integerText, isDigits, Bool.and_eq_true, List.all_eq_true]
  exact ⟨by simp [naturalText_ne_nil], fun c => isDecimal_of_mem_naturalText⟩

/-- What is written within the limit is read back. -/
theorem readInteger?_integerText {n : Int} (within : withinLimit n.natAbs = true) :
    readInteger? (integerText n) = some n := by
  have solid : ∀ c ∈ integerText n, isSpace c = false := by
    intro c mem
    cases n with
    | ofNat n => exact isSpace_of_isDigit (isDigit_of_mem_naturalText mem)
    | negSucc n =>
      rcases List.mem_cons.mp mem with rfl | digit
      · decide
      · exact isSpace_of_isDigit (isDigit_of_mem_naturalText digit)
  have sign : signed (decide (n < 0)) n.natAbs = n := by
    simp only [signed, decide_eq_true_eq]
    split <;> omega
  rw [readInteger?, Text.trim_eq_self solid, if_pos (isIntegerLiteral_integerText n), integerValue?,
    takeSign_integerText, digitsValue?, if_pos (withinLimit_iff.mp within), digitsValue_naturalText,
    Option.map_some, sign]

theorem readInteger?_naturalText {n : Nat} (within : withinLimit n = true) :
    readInteger? (naturalText n) = some (n : Int) :=
  readInteger?_integerText (n := n) within

theorem integerText_injective {m n : Int} (h : integerText m = integerText n) : m = n := by
  have parts := takeSign_integerText m
  rw [h, takeSign_integerText n] at parts
  obtain ⟨sign, digits⟩ := Prod.mk.inj parts
  have sizes := congrArg digitsValue digits
  rw [digitsValue_naturalText, digitsValue_naturalText] at sizes
  rw [decide_eq_decide] at sign
  omega

end MacroShell
