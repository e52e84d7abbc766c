import MacroShell.Proofs.Language.Leftmost

/-!
# Expanding in a single pass

What a line expands to is put together from the line itself and the places of its spans. The values
of spans are not read again.
-/

namespace MacroShell
namespace Line

/-- The line from a position on, with the slice of each span replaced by a value. -/
def replaceFrom (value : Macro → Text) (line : Text) (position : Nat) : List Span → Text
  | [] => line.drop position
  | s :: rest =>
    (line.drop position).take (s.start - position) ++ value s.content ++
      replaceFrom value line s.stop rest

theorem replaceFrom_plain (value : Macro → Text) (before : Text) (c : Char) (rest : Text)
    {found : List Span} (later : ∀ s ∈ found, before.length + 1 ≤ s.start) :
    replaceFrom value (before ++ c :: rest) before.length found =
      c :: replaceFrom value (before ++ c :: rest) (before.length + 1) found := by
  have next : (before ++ c :: rest).drop (before.length + 1) = rest := by
    rw [← List.drop_drop, List.drop_left]
    rfl
  cases found with
  | nil => rw [replaceFrom, replaceFrom, next, List.drop_left]
  | cons s found =>
    obtain ⟨gap, start⟩ := Nat.exists_eq_add_of_le (later s List.mem_cons_self)
    have here : s.start - before.length = gap + 1 := by omega
    have there : s.start - (before.length + 1) = gap := by omega
    rw [replaceFrom, replaceFrom, next, List.drop_left, here, there]
    rfl

theorem flatMap_pieces (now : Moment) (before rest : Text) :
    (pieces rest).flatMap (expandPiece now) =
      replaceFrom (Macro.evaluate now) (before ++ rest) before.length
        (spansFrom before.length (pieces rest)) := by
  induction rest using reading_induction generalizing before with
  | nil => simp [pieces, piecesAfter, spansFrom, replaceFrom]
  | plain c rest none ih =>
    have more := ih (before ++ [c])
    have found := leftmost_spansFrom (before ++ [c]) rest
    rw [List.append_assoc, List.singleton_append, List.length_append] at more found
    rw [pieces_plain none, List.flatMap_cons, spansFrom, replaceFrom_plain, more]
    · rfl
    · intro s mem
      exact (found.mem_iff.mp mem).2.1
  | span m u rest renders ih =>
    have more := ih (before ++ u)
    rw [List.append_assoc, List.length_append] at more
    rw [pieces_span renders, List.flatMap_cons, spansFrom, replaceFrom, more, Nat.sub_self,
      List.take_zero]
    rfl

theorem expand_eq_replaceFrom (now : Moment) (line : Text) :
    expand now line = replaceFrom (Macro.evaluate now) line 0 (spans line) := by
  rw [expand_eq]
  exact flatMap_pieces now [] line

/-- A line in which no span starts is kept. -/
theorem expand_eq_self {line : Text} (plain : ¬ "$[".toList <:+: line) (now : Moment) :
    expand now line = line := by
  have none : spans line = [] := by
    rw [List.eq_nil_iff_forall_not_mem]
    intro s mem
    exact plain ((leftmost_spans line).mem_iff.mp mem).1.isInfix
  rw [expand_eq_replaceFrom, none, replaceFrom, List.drop_zero]

/-! ## Lines one behind the other -/

/-- Behind every `$[` a bracket is closed. -/
def Closed (line : Text) : Prop :=
  ∀ before after : Text, line = before ++ '$' :: '[' :: after → ']' ∈ after

/-- No `$[` comes about where the texts meet. -/
def Apart (a b : Text) : Prop := ¬ (a.getLast? = some '$' ∧ b.head? = some '[')

theorem Closed.of_append {a b : Text} (h : Closed (a ++ b)) : Closed b := by
  rintro before after rfl
  exact h (a ++ before) after (by simp)

theorem Closed.of_getLast? {line : Text} (h : line.getLast? = some ']') : Closed line := by
  rintro before after rfl
  cases after with
  | nil => simp at h
  | cons c after =>
    apply List.mem_of_getLast?
    simpa using h

theorem Apart.of_append {a b c : Text} (h : Apart (a ++ b) c) : Apart b c := by
  rintro ⟨last, head⟩
  exact h ⟨List.mem_getLast?_append_of_mem_getLast? last, head⟩

/-- What is read at the front of a closed text does not depend on what follows. -/
theorem readFront?_append {c : Char} {a b : Text} (closed : Closed (c :: a))
    (apart : Apart (c :: a) b) :
    Macro.readFront? (c :: a ++ b) = Macro.readFront? (c :: a) := by
  apply Option.ext
  rintro ⟨m, length⟩
  simp only [Macro.readFront?_eq_some_iff]
  constructor
  · rintro ⟨u, rest, split, ⟨inside, noClose, reads, rfl⟩, rfl⟩
    obtain ⟨dollar, others⟩ : c = '$' ∧ a ++ b = '[' :: (inside ++ ']' :: rest) := by
      simpa using split
    subst dollar
    cases a with
    | nil =>
      rw [List.nil_append] at others
      exact absurd ⟨rfl, by rw [others]; rfl⟩ apart
    | cons d a =>
      obtain ⟨bracket, inner⟩ : d = '[' ∧ a ++ b = inside ++ ']' :: rest := by
        simpa using others
      subst bracket
      -- The bracket that closes the span is the first one, and there is one in the first text.
      obtain ⟨x, y, rfl, first⟩ := List.eq_append_cons_of_mem (closed [] a rfl)
      rw [List.append_assoc, List.cons_append] at inner
      obtain ⟨rfl, rfl⟩ := Macro.cut_unique first noClose inner
      exact ⟨_, y, by simp, ⟨x, noClose, reads, rfl⟩, rfl⟩
  · rintro ⟨u, rest, split, renders, rfl⟩
    exact ⟨u, rest ++ b, by rw [split, List.append_assoc], renders, rfl⟩

theorem pieces_append {a b : Text} (closed : Closed a) (apart : Apart a b) :
    pieces (a ++ b) = pieces a ++ pieces b := by
  induction a using reading_induction with
  | nil => rfl
  | plain c rest none ih =>
    have read : Macro.readFront? (c :: (rest ++ b)) = .none := by
      rw [← none]
      exact readFront?_append closed apart
    have tail : Closed rest := Closed.of_append (a := [c]) closed
    have apart : Apart rest b := Apart.of_append (a := [c]) apart
    rw [pieces_plain none, List.cons_append, pieces_plain read, ih tail apart, List.cons_append]
  | span m u rest renders ih =>
    rw [List.append_assoc, pieces_span renders, pieces_span renders,
      ih closed.of_append apart.of_append, List.cons_append]

theorem expand_append_of_closed {a b : Text} (closed : Closed a) (apart : Apart a b)
    (now : Moment) : expand now (a ++ b) = expand now a ++ expand now b := by
  rw [expand_eq, expand_eq, expand_eq, pieces_append closed apart, List.flatMap_append]

/-- **Expanding is a single pass over the spans.** Their slices are not empty, are in order and do
not overlap; expanding replaces each by the value of its span and keeps every other character.
Behind a line that leaves no bracket open and does not end in half of one, another line expands as
it does alone. -/
theorem expand_single_pass (line : Text) :
    (∀ s ∈ spans line, s.start < s.stop ∧ s.stop ≤ line.length) ∧
      (spans line).Pairwise (fun s t => s.stop ≤ t.start) ∧
      (∀ now, expand now line = replaceFrom (Macro.evaluate now) line 0 (spans line)) ∧
      ∀ rest, Closed line → Apart line rest →
        ∀ now, expand now (line ++ rest) = expand now line ++ expand now rest := by
  have leftmost := leftmost_spans line
  refine ⟨fun s mem => (leftmost.mem_iff.mp mem).1.bounds, leftmost.ordered,
    fun now => expand_eq_replaceFrom now line, ?_⟩
  intro rest closed apart now
  exact expand_append_of_closed closed apart now

/-- The value of the first span opens a bracket that the rest of the line closes; the two are not
read as a span. -/
theorem expand_single_pass_bracket :
    let line : Text := "$[String : $[:q]".toList
    let rest : Text := "]$[Number: 007]$".toList
    Closed line ∧ Apart line rest ∧
      (∀ s ∈ spans line, s.start < s.stop ∧ s.stop ≤ line.length) ∧
      expand .epoch (line ++ rest) = expand .epoch line ++ expand .epoch rest ∧
      expand .epoch (line ++ rest) = "$[:q]7$".toList := by
  intro line rest
  have closed : Closed line := .of_getLast? (by decide)
  have apart : Apart line rest := by
    rintro ⟨last, -⟩
    exact absurd last (by decide)
  have pass := expand_single_pass line
  have together := pass.2.2.2 rest closed apart .epoch
  have value : expand .epoch line ++ expand .epoch rest = "$[:q]7$".toList := by decide +kernel
  exact ⟨closed, apart, pass.1, together, together.trans value⟩

end Line
end MacroShell
