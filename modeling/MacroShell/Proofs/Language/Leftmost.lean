import MacroShell.Proofs.Language.Line
import MacroShell.Proofs.Language.Span

/-!
# The spans of a line

`Occurs` says of a span where it stands in a line, by the grammar alone. Reading a line from left to
right finds the leftmost one, then the leftmost one behind it, and so on.
-/

namespace MacroShell

theorem Macro.Renders.length_pos {m : Macro} {u : Text} (h : m.Renders u) : 0 < u.length := by
  obtain ⟨inside, _, _, rfl⟩ := h
  simp

namespace Line

def Occurs (line : Text) (s : Span) : Prop :=
  ∃ before text after : Text, line = before ++ (text ++ after) ∧ s.content.Renders text ∧
    s.start = before.length ∧ s.stop = before.length + text.length

variable {line : Text} {position : Nat} {s t : Span} {found : List Span}

theorem Occurs.bounds (h : Occurs line s) : s.start < s.stop ∧ s.stop ≤ line.length := by
  obtain ⟨before, text, after, rfl, renders, start, stop⟩ := h
  have nonempty := renders.length_pos
  simp only [List.length_append]
  omega

theorem Occurs.isInfix (h : Occurs line s) : "$[".toList <:+: line := by
  obtain ⟨before, _, after, rfl, ⟨inside, _, _, rfl⟩, -, -⟩ := h
  exact ⟨before, inside ++ ']' :: after, by simp⟩

/-- At each place at most one span starts. -/
theorem Occurs.unique (h : Occurs line s) (h' : Occurs line t) (same : s.start = t.start) :
    s = t := by
  obtain ⟨before, text, after, rfl, renders, start, stop⟩ := h
  obtain ⟨before', text', after', split, renders', start', stop'⟩ := h'
  obtain ⟨rfl, others⟩ := List.append_inj split (by omega)
  obtain ⟨rfl, content⟩ := renders.unique renders' others
  cases s
  cases t
  simp_all

/-- A span ends with the first closing bracket behind its start. -/
theorem Occurs.stop_eq (h : Occurs line s) :
    s.stop = s.start + (line.drop s.start).idxOf ']' + 1 := by
  obtain ⟨before, text, after, rfl, ⟨inside, noClose, _, rfl⟩, start, stop⟩ := h
  have opened : ']' ∉ '$' :: '[' :: inside := by simp [noClose]
  have rest : '$' :: '[' :: (inside ++ [']']) ++ after =
      '$' :: '[' :: inside ++ ']' :: after := by simp
  have first : ('$' :: '[' :: inside ++ ']' :: after).idxOf ']' =
      ('$' :: '[' :: inside).length := by
    rw [List.idxOf_append_of_notMem opened, List.idxOf_cons_self, Nat.add_zero]
  rw [start, List.drop_left, rest, first, stop]
  simp only [List.length_cons, List.length_append, List.length_nil]
  omega

/-- No span starts where none is read. -/
theorem start_ne_of_readFront?_eq_none {before rest : Text} (h : Macro.readFront? rest = none)
    (occurs : Occurs (before ++ rest) s) : s.start ≠ before.length := by
  obtain ⟨before', text, after, split, renders, start, stop⟩ := occurs
  intro same
  obtain ⟨rfl, rfl⟩ := List.append_inj split (by omega)
  have read := Macro.readFront?_eq_some_iff.mpr ⟨text, after, rfl, renders, rfl⟩
  rw [h] at read
  cases read

/-! ## Reading from left to right -/

theorem piecesAfter_eq (skip : Nat) (rest : Text) :
    piecesAfter skip rest = pieces (rest.drop skip) := by
  induction skip generalizing rest with
  | zero => rfl
  | succ skip ih =>
    cases rest with
    | nil => rfl
    | cons c rest => exact ih rest

theorem pieces_plain {c : Char} {rest : Text} (h : Macro.readFront? (c :: rest) = none) :
    pieces (c :: rest) = .plain c :: pieces rest := by
  simp [pieces, piecesAfter, h]

theorem pieces_span {m : Macro} {u : Text} (h : m.Renders u) (rest : Text) :
    pieces (u ++ rest) = .span m u.length :: pieces rest := by
  have read : Macro.readFront? (u ++ rest) = some (m, u.length) :=
    Macro.readFront?_eq_some_iff.mpr ⟨u, rest, rfl, h, rfl⟩
  cases u with
  | nil => exact absurd h.length_pos (Nat.lt_irrefl 0)
  | cons c u =>
    rw [List.cons_append] at read
    have rest_eq : piecesAfter u.length (u ++ rest) = pieces rest := by
      rw [piecesAfter_eq, List.drop_left]
    simpa [pieces, piecesAfter, read] using rest_eq

/-- A line is read character by character, or span by span. -/
theorem reading_induction {P : Text → Prop} (nil : P [])
    (plain : ∀ c rest, Macro.readFront? (c :: rest) = none → P rest → P (c :: rest))
    (span : ∀ (m : Macro) u rest, m.Renders u → P rest → P (u ++ rest)) (line : Text) : P line := by
  induction h : line.length using Nat.strong_induction_on generalizing line with
  | _ n ih =>
    subst h
    cases line with
    | nil => exact nil
    | cons c rest =>
      cases read : Macro.readFront? (c :: rest) with
      | none => exact plain c rest read (ih rest.length (by simp) rest rfl)
      | some front =>
        obtain ⟨u, rest', split, renders, _⟩ := Macro.readFront?_eq_some_iff.mp read
        have shorter : rest'.length < (c :: rest).length := by
          have nonempty := renders.length_pos
          rw [split, List.length_append]
          omega
        rw [split]
        exact span front.1 u rest' renders (ih rest'.length shorter rest' rfl)

/-! ## The leftmost spans -/

/-- The spans of a line from a position on: each is the leftmost of all that start where the one
before it stops, or later. -/
inductive Leftmost (line : Text) : Nat → List Span → Prop
  | none {position : Nat} : (∀ s, Occurs line s → s.start < position) → Leftmost line position []
  | next {position : Nat} {s : Span} {rest : List Span} : Occurs line s → position ≤ s.start →
      (∀ t, Occurs line t → position ≤ t.start → s.start ≤ t.start) →
      Leftmost line s.stop rest → Leftmost line position (s :: rest)

namespace Leftmost

theorem earlier (h : Leftmost line (position + 1) found)
    (free : ∀ s, Occurs line s → s.start ≠ position) : Leftmost line position found := by
  cases h with
  | none before =>
    apply Leftmost.none
    intro s hs
    have := before s hs
    have := free s hs
    omega
  | next occurs behind least rest =>
    refine .next occurs (Nat.le_of_succ_le behind) ?_ rest
    intro t ht later
    have := free t ht
    exact least t ht (by omega)

theorem unique {found' : List Span} (h : Leftmost line position found)
    (h' : Leftmost line position found') : found = found' := by
  induction h generalizing found' with
  | none before =>
    cases h' with
    | none => rfl
    | next occurs behind => exact absurd (before _ occurs) (Nat.not_lt.mpr behind)
  | next occurs behind least _ ih =>
    cases h' with
    | none before => exact absurd (before _ occurs) (Nat.not_lt.mpr behind)
    | next occurs' behind' least' rest' =>
      have same := Nat.le_antisymm (least _ occurs' behind') (least' _ occurs behind)
      obtain rfl := occurs.unique occurs' same
      rw [ih rest']

/-- Of the spans that occur, only those are passed over that start inside one that is found. -/
theorem mem_iff (h : Leftmost line position found) :
    s ∈ found ↔ Occurs line s ∧ position ≤ s.start ∧
      ∀ t ∈ found, ¬ (t.start < s.start ∧ s.start < t.stop) := by
  induction h generalizing s with
  | none before =>
    constructor
    · nofun
    · rintro ⟨occurs, behind, _⟩
      exact absurd (before s occurs) (Nat.not_lt.mpr behind)
  | @next position first rest occurs behind least _ ih =>
    -- Whatever is found later starts behind the first span.
    have after {t : Span} (mem : t ∈ rest) : first.stop ≤ t.start := (ih.mp mem).2.1
    have nonempty := occurs.bounds.1
    constructor
    · intro mem
      rcases List.mem_cons.mp mem with rfl | later
      · refine ⟨occurs, behind, ?_⟩
        rintro t ht ⟨before, _⟩
        rcases List.mem_cons.mp ht with rfl | later
        · exact Nat.lt_irrefl _ before
        · have := after later
          omega
      · obtain ⟨here, _, free⟩ := ih.mp later
        have start := after later
        refine ⟨here, by omega, ?_⟩
        rintro t ht inside
        rcases List.mem_cons.mp ht with rfl | others
        · omega
        · exact free t others inside
    · rintro ⟨here, later, free⟩
      rw [List.mem_cons]
      have order := least s here later
      by_cases same : s.start = first.start
      · exact Or.inl (here.unique occurs same)
      · right
        have apart := free first List.mem_cons_self
        refine ih.mpr ⟨here, by omega, ?_⟩
        intro t ht
        exact free t (List.mem_cons_of_mem first ht)

theorem ordered (h : Leftmost line position found) :
    found.Pairwise fun s t => s.stop ≤ t.start := by
  induction h with
  | none => exact .nil
  | next _ _ _ rest ih =>
    refine .cons ?_ ih
    intro t mem
    exact (rest.mem_iff.mp mem).2.1

end Leftmost

theorem leftmost_spansFrom (before rest : Text) :
    Leftmost (before ++ rest) before.length (spansFrom before.length (pieces rest)) := by
  induction rest using reading_induction generalizing before with
  | nil =>
    apply Leftmost.none
    intro s occurs
    have bounds := occurs.bounds
    rw [List.append_nil] at bounds
    omega
  | plain c rest none ih =>
    rw [pieces_plain none]
    have more := ih (before ++ [c])
    rw [List.append_assoc, List.length_append] at more
    apply more.earlier
    intro s occurs
    exact start_ne_of_readFront?_eq_none none occurs
  | span m u rest renders ih =>
    rw [pieces_span renders]
    have more := ih (before ++ u)
    rw [List.append_assoc, List.length_append] at more
    refine .next ⟨before, u, rest, rfl, renders, rfl, rfl⟩ (Nat.le_refl _) ?_ more
    exact fun t _ later => later

theorem leftmost_spans (line : Text) : Leftmost line 0 (spans line) :=
  leftmost_spansFrom [] line

/-- **The spans of a line are exactly the leftmost ones.** Any list that is put together of
leftmost spans by the grammar is the list that is found, and of the spans in the line only those
are missing from it that start inside one of them. At no place two spans start, and each ends with
the first closing bracket. -/
theorem spans_exact (line : Text) :
    (∀ found, Leftmost line 0 found ↔ found = spans line) ∧
      (∀ s, s ∈ spans line ↔ Occurs line s ∧
        ∀ t ∈ spans line, ¬ (t.start < s.start ∧ s.start < t.stop)) ∧
      (∀ s t, Occurs line s → Occurs line t → s.start = t.start → s = t) ∧
      ∀ s, Occurs line s → s.start < s.stop ∧ s.stop ≤ line.length ∧
        s.stop = s.start + (line.drop s.start).idxOf ']' + 1 := by
  refine ⟨?_, ?_, fun s t hs ht => hs.unique ht, fun s hs => ⟨hs.bounds.1, hs.bounds.2, hs.stop_eq⟩⟩
  · intro found
    constructor
    · intro leftmost
      exact leftmost.unique (leftmost_spans line)
    · rintro rfl
      exact leftmost_spans line
  · intro s
    rw [(leftmost_spans line).mem_iff]
    simp

/-- A span that would start inside another is not found, and one that is never closed does not
hide the next. -/
theorem spans_exact_nested :
    let line : Text := "$[ $[?: a => $[:b]] $[@ :c(d)]".toList
    let first : Span := ⟨⟨['?'], ['a'], some "$[:b".toList⟩, 3, 18⟩
    let second : Span := ⟨⟨['@'], "c(d)".toList, none⟩, 20, 30⟩
    Leftmost line 0 [first, second] ∧ Occurs line first ∧
      first.stop = first.start + (line.drop first.start).idxOf ']' + 1 := by
  intro line first second
  have found : [first, second] = spans line := by decide +kernel
  have occurs : Occurs line first := by
    refine (((spans_exact line).2.1 first).mp ?_).1
    rw [← found]
    exact List.mem_cons_self
  exact ⟨((spans_exact line).1 _).mpr found, occurs, ((spans_exact line).2.2.2 first occurs).2.2⟩

end Line
end MacroShell
