import MacroShell.Calculator.Evaluate

/-!
# Cutting expressions into tokens

An expression is cut behind every operator, every parenthesis and every numeral, and a numeral is as
long as it can be. Two numerals may still be neighbours: then the second one begins with a point for
which the first one has no place left.
-/

namespace MacroShell

def IsNumeral (t : Text) : Prop :=
  t ≠ [] ∧ (∀ c ∈ t, isDigit c = true ∨ c = '.') ∧ t.count '.' ≤ 1

instance (t : Text) : Decidable (IsNumeral t) :=
  haveI := List.decidableBAll (fun c => isDigit c = true ∨ c = '.') t
  inferInstanceAs (Decidable (t ≠ [] ∧ (∀ c ∈ t, isDigit c = true ∨ c = '.') ∧ t.count '.' ≤ 1))

theorem isDigit_ne_point {c : Char} (h : isDigit c = true) : c ≠ '.' := by
  rintro rfl
  exact absurd h (by decide)

namespace Token

/-! ## Results and errors -/

section
variable {ε α β : Type}

theorem map_eq_ok {f : α → β} {r : Except ε α} {b : β} (h : r.map f = .ok b) :
    ∃ a, r = .ok a ∧ f a = b := by
  cases r with
  | error e => cases h
  | ok a => exact ⟨a, rfl, Except.ok.inj h⟩

theorem bind_eq_ok {f : α → Except ε β} {r : Except ε α} {b : β} (h : r.bind f = .ok b) :
    ∃ a, r = .ok a ∧ f a = .ok b := by
  cases r with
  | error e => cases h
  | ok a => exact ⟨a, rfl, h⟩

theorem map_eq_error_iff {f : α → β} {r : Except ε α} {e : ε} :
    r.map f = .error e ↔ r = .error e := by
  cases r with
  | error e' => simp [Except.map]
  | ok a => exact iff_of_false nofun nofun

theorem bind_eq_error {f : α → Except ε β} {r : Except ε α} {e : ε} (h : r.bind f = .error e) :
    r = .error e ∨ ∃ a, r = .ok a ∧ f a = .error e := by
  cases r with
  | error e' => exact Or.inl (congrArg Except.error (Except.error.inj h))
  | ok a => exact Or.inr ⟨a, rfl, h⟩

end

/-! ## Symbols -/

def isAdmitted (c : Char) : Bool := isDigit c || c == '.' || "+-*/^()".toList.contains c

theorem ofSymbol?_text {c : Char} {symbol : Token} (h : ofSymbol? c = some symbol) :
    symbol.text = [c] ∧ ∀ m, symbol ≠ .operand m := by
  unfold ofSymbol? Operator.ofSymbol? at h
  split at h
  · cases h
    exact ⟨rfl, nofun⟩
  · cases h
    exact ⟨rfl, nofun⟩
  · split at h <;> cases h <;> exact ⟨rfl, nofun⟩

theorem ofSymbol?_eq_none_iff {c : Char} :
    ofSymbol? c = none ↔ "+-*/^()".toList.contains c = false := by
  unfold ofSymbol? Operator.ofSymbol?
  split
  · decide
  · decide
  · split <;> simp_all

/-- The character of an operator or a parenthesis ends any numeral before it. -/
theorem scan_symbol {symbol : Token} (hs : ∀ m, symbol ≠ .operand m) (pointed : Bool) (w : Text) :
    scan pointed (symbol.text ++ w) =
      (scan false w).map fun (n, ts) => ([], symbol :: flush n ts) := by
  cases symbol with
  | operand m => exact absurd rfl (hs m)
  | operator op => cases op <;> rfl
  | opening => rfl
  | closing => rfl

theorem symbol_stops {symbol : Token} (hs : ∀ m, symbol ≠ .operand m) :
    ∃ c, symbol.text = [c] ∧ isDigit c = false ∧ c ≠ '.' := by
  cases symbol with
  | operand m => exact absurd rfl (hs m)
  | operator op => cases op <;> exact ⟨_, rfl, by decide, by decide⟩
  | opening | closing => exact ⟨_, rfl, by decide, by decide⟩

/-! ## Numerals as long as they can be -/

/-- Operands are numerals that do not go on with the character behind them: that is no digit, and a
point only if there is one already. -/
def IsMaximal : List Token → Prop
  | [] => True
  | .operand n :: rest =>
    IsNumeral n ∧ (∀ c ∈ (rest.flatMap text).head?, isDigit c = false ∧ (c = '.' → '.' ∈ n)) ∧
      IsMaximal rest
  | _ :: rest => IsMaximal rest

theorem IsMaximal.symbol {ts : List Token} {symbol : Token} (hs : ∀ m, symbol ≠ .operand m)
    (h : IsMaximal ts) : IsMaximal (symbol :: ts) := by
  cases symbol with
  | operand m => exact absurd rfl (hs m)
  | operator | opening | closing => exact h

theorem IsMaximal.numerals {ts : List Token} (h : IsMaximal ts) :
    ∀ m, .operand m ∈ ts → IsNumeral m := by
  induction ts with
  | nil => nofun
  | cons t ts ih =>
    intro m mem
    cases t with
    | operand n =>
      rcases List.mem_cons.mp mem with same | later
      · cases same
        exact h.1
      · exact ih h.2.2 m later
    | operator | opening | closing => exact ih h m (by simpa using mem)

/-- An operator or a parenthesis ends the numeral before it. -/
theorem IsMaximal.append {ts us : List Token} {symbol : Token} (hs : ∀ m, symbol ≠ .operand m)
    (ht : IsMaximal ts) (hu : IsMaximal us) : IsMaximal (ts ++ symbol :: us) := by
  induction ts with
  | nil => exact hu.symbol hs
  | cons t ts ih =>
    cases t with
    | operand n =>
      obtain ⟨numeral, stops, rest⟩ := ht
      refine ⟨numeral, fun c (behind : c ∈ ((ts ++ symbol :: us).flatMap text).head?) => ?_, ih rest⟩
      obtain ⟨d, single, noDigit, noPoint⟩ := symbol_stops hs
      rw [List.flatMap_append, List.flatMap_cons, single, List.head?_append] at behind
      cases next : (ts.flatMap text).head? with
      | none =>
        rw [next] at behind
        obtain rfl : d = c := by simpa using behind
        exact ⟨noDigit, fun point => absurd point noPoint⟩
      | some e =>
        rw [next] at behind stops
        exact stops c behind
    | operator | opening | closing => exact ih ht

/-- What `scan` answers for tokens: the numeral they begin with, if any, and the others. -/
def front : List Token → Text × List Token
  | .operand n :: rest => (n, rest)
  | ts => ([], ts)

theorem flush_front {ts : List Token} (h : IsMaximal ts) : flush (front ts).1 (front ts).2 = ts := by
  cases ts with
  | nil => rfl
  | cons t ts =>
    cases t with
    | operand n => simp [front, flush, h.1.1]
    | operator | opening | closing => rfl

/-- Characters of a numeral are passed through, as long as there is no second point. -/
theorem scan_numeral {n : Text} (hn : ∀ c ∈ n, isDigit c = true ∨ c = '.') (w : Text) :
    ∀ pointed : Bool, n.count '.' + pointed.toNat ≤ 1 →
      scan pointed (n ++ w) =
        (scan (pointed || n.contains '.') w).map fun (m, ts) => (n ++ m, ts) := by
  induction n with
  | nil =>
    intro pointed _
    simp only [List.nil_append, List.contains_nil, Bool.or_false]
    cases scan pointed w <;> rfl
  | cons c n ih =>
    intro pointed count
    have ih := ih fun d hd => hn d (List.mem_cons_of_mem c hd)
    rcases hn c List.mem_cons_self with digit | rfl
    · have hc := isDigit_ne_point digit
      rw [List.count_cons_of_ne hc] at count
      simp only [List.cons_append, scan, digit, ↓reduceIte, ih pointed count,
        List.contains_cons, beq_eq_false_iff_ne.mpr hc.symm, Bool.false_or]
      cases scan (pointed || n.contains '.') w <;> rfl
    · rw [List.count_cons_self] at count
      have first : pointed = false := by
        cases pointed with
        | false => rfl
        | true => simp at count
      have none : n.count '.' + true.toNat ≤ 1 := by simpa using by omega
      have notDigit : isDigit '.' = false := by decide
      simp only [List.cons_append, scan, notDigit, Bool.false_eq_true, ↓reduceIte, first,
        ih true none, List.contains_cons, beq_self_eq_true, Bool.true_or, Bool.or_true]
      cases scan true w <;> rfl

/-- Where a numeral has a point already, the next one may begin with one. -/
theorem scan_second {n w : Text} (numeral : IsNumeral n) {ts : List Token}
    (stops : ∀ c ∈ n.head?, isDigit c = false) (scanned : scan true w = .ok ([], ts)) :
    scan true (n ++ w) = .ok ([], .operand n :: ts) := by
  obtain ⟨nonempty, characters, points⟩ := numeral
  cases n with
  | nil => exact absurd rfl nonempty
  | cons c n =>
    obtain ⟨first, others⟩ := List.forall_mem_cons.mp characters
    have point : c = '.' := first.resolve_left (by simp [stops c rfl])
    subst point
    rw [List.count_cons_self] at points
    have none : n.count '.' + true.toNat ≤ 1 := by simpa using points
    have notDigit : isDigit '.' = false := by decide
    simp only [List.cons_append, scan, notDigit, Bool.false_eq_true, ↓reduceIte,
      scan_numeral others w true none, Bool.true_or, scanned]
    simp [Except.map]

theorem scan_front {symbol : Token} (hs : ∀ m, symbol ≠ .operand m) {ts : List Token}
    (ht : IsMaximal ts) (h : scan false (ts.flatMap text) = .ok (front ts)) (pointed : Bool) :
    scan pointed ((symbol :: ts).flatMap text) = .ok ([], symbol :: ts) := by
  rw [List.flatMap_cons, scan_symbol hs, h]
  simp only [Except.map, flush_front ht]

/-- **Numerals that are as long as they can be are read back from their texts.** Where the text does
not go on with the numeral before it, it does not matter that there was one. -/
theorem scan_flatMap {ts : List Token} (h : IsMaximal ts) :
    scan false (ts.flatMap text) = .ok (front ts) ∧
      ∀ pointed : Bool, (∀ c ∈ (ts.flatMap text).head?,
          isDigit c = false ∧ (c = '.' → pointed = true)) →
        scan pointed (ts.flatMap text) = .ok ([], ts) := by
  induction ts with
  | nil => exact ⟨rfl, fun _ _ => rfl⟩
  | cons t ts ih =>
    cases t with
    | operand n =>
      obtain ⟨numeral, stops, rest⟩ := h
      obtain ⟨-, behind⟩ := ih rest
      rw [List.flatMap_cons, text]
      constructor
      · have none : n.count '.' + false.toNat ≤ 1 := by simpa using numeral.2.2
        rw [scan_numeral numeral.2.1 _ false none,
          behind _ (by simpa using stops)]
        simp [Except.map, front]
      · intro pointed apart
        obtain ⟨c, m, rfl⟩ := List.exists_cons_of_ne_nil numeral.1
        obtain ⟨noDigit, point⟩ := apart c rfl
        have first : c = '.' := (numeral.2.1 c List.mem_cons_self).resolve_left (by simp [noDigit])
        obtain rfl : pointed = true := point first
        refine scan_second numeral (by simpa using noDigit) (behind true ?_)
        exact fun d hd => ⟨(stops d hd).1, fun _ => rfl⟩
    | operator | opening | closing =>
      have rest : IsMaximal ts := h
      refine ⟨?_, fun pointed _ => ?_⟩
      · exact scan_front (by simp) rest (ih rest).1 false
      · exact scan_front (by simp) rest (ih rest).1 pointed

/-! ## What is cut off -/

/-- A text is cut into the rest of a numeral, which may have a point before it already, and the
tokens behind. -/
structure Cuts (pointed : Bool) (w numeral : Text) (ts : List Token) : Prop where
  whole : numeral ++ ts.flatMap text = w
  characters : ∀ c ∈ numeral, isDigit c = true ∨ c = '.'
  points : numeral.count '.' + pointed.toNat ≤ 1
  stops : ∀ c ∈ (ts.flatMap text).head?,
    isDigit c = false ∧ (c = '.' → (pointed || numeral.contains '.') = true)
  maximal : IsMaximal ts

namespace Cuts

variable {pointed : Bool} {w n : Text} {ts : List Token}

theorem flush (h : Cuts false w n ts) :
    (Token.flush n ts).flatMap text = w ∧ IsMaximal (Token.flush n ts) := by
  unfold Token.flush
  split
  · rename_i empty
    obtain rfl : n = [] := by simpa using empty
    exact ⟨h.whole, h.maximal⟩
  · rename_i filled
    refine ⟨h.whole, ⟨by simpa using filled, h.characters, by simpa using h.points⟩, ?_, h.maximal⟩
    simpa using h.stops

theorem scan_eq (h : Cuts pointed w n ts) : scan pointed w = .ok (n, ts) := by
  rw [← h.whole, scan_numeral h.characters _ pointed h.points, (scan_flatMap h.maximal).2 _ h.stops]
  simp [Except.map]

theorem digit {c : Char} (digit : isDigit c = true) (h : Cuts pointed w n ts) :
    Cuts pointed (c :: w) (c :: n) ts where
  whole := congrArg (c :: ·) h.whole
  characters := List.forall_mem_cons.mpr ⟨Or.inl digit, h.characters⟩
  points := by
    rw [List.count_cons_of_ne (isDigit_ne_point digit)]
    exact h.points
  stops := by
    have other : ('.' == c) = false := beq_eq_false_iff_ne.mpr (isDigit_ne_point digit).symm
    simpa only [List.contains_cons, other, Bool.false_or] using h.stops
  maximal := h.maximal

theorem point (h : Cuts true w n ts) : Cuts false ('.' :: w) ('.' :: n) ts where
  whole := congrArg ('.' :: ·) h.whole
  characters := List.forall_mem_cons.mpr ⟨Or.inr rfl, h.characters⟩
  points := by
    rw [List.count_cons_self]
    exact h.points
  stops := fun c behind => ⟨(h.stops c behind).1, fun _ => by simp⟩
  maximal := h.maximal

/-- A second point begins a numeral of its own. -/
theorem secondPoint (h : Cuts true w n ts) :
    Cuts true ('.' :: w) [] (.operand ('.' :: n) :: ts) where
  whole := congrArg ('.' :: ·) h.whole
  characters := nofun
  points := by decide
  stops := by
    intro c behind
    obtain rfl : '.' = c := by simpa [text] using behind
    exact ⟨by decide, fun _ => rfl⟩
  maximal := by
    refine ⟨⟨by simp, h.point.characters, by simpa using h.point.points⟩, ?_, h.maximal⟩
    exact fun c behind => ⟨(h.stops c behind).1, fun _ => List.mem_cons_self⟩

theorem symbol {c : Char} {symbol : Token} (found : ofSymbol? c = some symbol)
    (h : Cuts false w n ts) : Cuts pointed (c :: w) [] (symbol :: Token.flush n ts) where
  whole := by
    rw [List.nil_append, List.flatMap_cons, (ofSymbol?_text found).1, h.flush.1]
    rfl
  characters := nofun
  points := by simpa using pointed.toNat_le
  stops := by
    obtain ⟨d, single, noDigit, noPoint⟩ := symbol_stops (ofSymbol?_text found).2
    intro e behind
    obtain rfl : d = e := by simpa [single] using behind
    exact ⟨noDigit, fun same => absurd same noPoint⟩
  maximal := h.flush.2.symbol (ofSymbol?_text found).2

end Cuts

/-- **What is cut off.** -/
theorem scan_eq_ok_iff {pointed : Bool} {w n : Text} {ts : List Token} :
    scan pointed w = .ok (n, ts) ↔ Cuts pointed w n ts := by
  refine ⟨fun scanned => ?_, Cuts.scan_eq⟩
  induction w generalizing pointed n ts with
  | nil =>
    cases scanned
    exact ⟨rfl, nofun, by simpa using pointed.toNat_le, nofun, trivial⟩
  | cons c rest ih =>
    rw [scan] at scanned
    split at scanned
    · rename_i digit
      obtain ⟨⟨m, us⟩, behind, same⟩ := map_eq_ok scanned
      cases same
      exact (ih behind).digit digit
    · split at scanned
      · rename_i point
        subst point
        obtain ⟨⟨m, us⟩, behind, same⟩ := map_eq_ok scanned
        cases pointed with
        | false =>
          cases same
          exact (ih behind).point
        | true =>
          cases same
          exact (ih behind).secondPoint
      · split at scanned
        · rename_i symbol found
          obtain ⟨⟨m, us⟩, behind, same⟩ := map_eq_ok scanned
          cases same
          exact (ih behind).symbol found
        · cases scanned

/-- The first character that stands for nothing is the error. -/
theorem scan_eq_error_iff {pointed : Bool} {w : Text} {e : CalculationError} :
    scan pointed w = .error e ↔ ∃ c, w.find? (!isAdmitted ·) = some c ∧ e = .invalidCharacter c := by
  induction w generalizing pointed with
  | nil => simp [scan]
  | cons c rest ih =>
    rw [scan]
    split
    · rename_i digit
      rw [map_eq_error_iff, ih, List.find?_cons_of_neg (by simp [isAdmitted, digit])]
    · rename_i noDigit
      split
      · rename_i point
        subst point
        rw [map_eq_error_iff, ih, List.find?_cons_of_neg (by decide)]
      · rename_i noPoint
        have admitted : isAdmitted c = "+-*/^()".toList.contains c := by
          rw [isAdmitted, eq_false_of_ne_true noDigit, beq_eq_false_iff_ne.mpr noPoint,
            Bool.false_or, Bool.false_or]
        split
        · rename_i symbol found
          have listed : "+-*/^()".toList.contains c = true := by
            rw [← Bool.not_eq_false, ← ofSymbol?_eq_none_iff, found]
            nofun
          rw [map_eq_error_iff, ih, List.find?_cons_of_neg (by rw [admitted, listed]; decide)]
        · rename_i none
          have unlisted := ofSymbol?_eq_none_iff.mp none
          rw [List.find?_cons_of_pos (by rw [admitted, unlisted]; decide)]
          constructor
          · rintro ⟨⟩
            exact ⟨c, rfl, rfl⟩
          · rintro ⟨d, ⟨⟩, rfl⟩
            rfl

/-! ## The tokens of an expression -/

/-- Space does not matter, and the tokens are the only ones with these texts. -/
theorem ofExpression_eq_ok_iff {expression : Text} {ts : List Token} :
    ofExpression expression = .ok ts ↔
      expression.isBlank = false ∧ ts.flatMap text = expression.filter (!isSpace ·) ∧
        IsMaximal ts := by
  unfold ofExpression
  split
  · rename_i blank
    exact iff_of_false nofun (by simp [blank])
  · rename_i solid
    rw [Bool.not_eq_true] at solid
    constructor
    · intro read
      obtain ⟨⟨n, us⟩, scanned, rfl⟩ := map_eq_ok read
      exact ⟨solid, (scan_eq_ok_iff.mp scanned).flush⟩
    · rintro ⟨-, whole, maximal⟩
      rw [← whole, (scan_flatMap maximal).1]
      exact congrArg Except.ok (flush_front maximal)

/-- Why an expression has no tokens. -/
theorem ofExpression_eq_error_iff {expression : Text} {e : CalculationError} :
    ofExpression expression = .error e ↔
      (expression.isBlank = true ∧ e = .emptyExpression) ∨
        expression.isBlank = false ∧
          ∃ c, (expression.filter (!isSpace ·)).find? (!isAdmitted ·) = some c ∧
            e = .invalidCharacter c := by
  unfold ofExpression
  split
  · rename_i blank
    simp only [blank, Bool.true_eq_false, false_and, or_false, true_and, Except.error.injEq]
    exact eq_comm
  · rename_i solid
    rw [map_eq_error_iff, scan_eq_error_iff]
    simp only [eq_false_of_ne_true solid, Bool.false_eq_true, false_and, false_or, true_and]

/-- **Tokens.** An expression has none if it is blank or has a character, space apart, that is no
digit, no point, no operator and no parenthesis. Else they make up the expression without its space,
the numerals among them as long as they can be. -/
theorem ofExpression_maximal (expression : Text) :
    ((∃ e, ofExpression expression = .error e) ↔
        expression.isBlank = true ∨
          ∃ c ∈ expression.filter (!isSpace ·), isAdmitted c = false) ∧
      ∀ ts, ofExpression expression = .ok ts ↔
        expression.isBlank = false ∧ ts.flatMap text = expression.filter (!isSpace ·) ∧
          IsMaximal ts := by
  refine ⟨?_, fun ts => ofExpression_eq_ok_iff⟩
  simp only [ofExpression_eq_error_iff]
  constructor
  · rintro ⟨e, ⟨blank, -⟩ | ⟨-, c, found, -⟩⟩
    · exact Or.inl blank
    · exact Or.inr ⟨c, List.mem_of_find?_eq_some found, by simpa using List.find?_some found⟩
  · intro refused
    by_cases blank : expression.isBlank = true
    · exact ⟨_, Or.inl ⟨blank, rfl⟩⟩
    · obtain ⟨c, mem, unknown⟩ := refused.resolve_left blank
      obtain ⟨d, found⟩ : ∃ d, (expression.filter (!isSpace ·)).find? (!isAdmitted ·) = some d :=
        Option.isSome_iff_exists.mp (List.find?_isSome.mpr ⟨c, mem, by simp [unknown]⟩)
      exact ⟨_, Or.inr ⟨eq_false_of_ne_true blank, d, found, rfl⟩⟩

example : ofExpression " 1.2.3(..) ".toList =
    .ok [.operand "1.2".toList, .operand ".3".toList, .opening, .operand ".".toList,
      .operand ".".toList, .closing] := rfl

end Token
end MacroShell
