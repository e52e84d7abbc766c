import Mathlib.Data.Option.Basic
import MacroShell.Text.Pattern

/-!
# What patterns match

`Matches` says which texts a pattern can match, and forgets in which order they are tried. Where all
matches say the same, the order does not matter.
-/

namespace MacroShell
namespace Pattern

/-- The texts that a pattern can match, and what its groups match then. -/
inductive Matches : Pattern → Text → Captures → Prop
  | nothing : Matches .nothing [] []
  | one {accepts : Char → Bool} {c : Char} : accepts c = true → Matches (.one accepts) [c] []
  | most {accepts : Char → Bool} {u : Text} :
      (∀ c ∈ u, accepts c = true) → Matches (.most accepts) u []
  | fewest {accepts : Char → Bool} {u : Text} :
      (∀ c ∈ u, accepts c = true) → Matches (.fewest accepts) u []
  | seq {p q : Pattern} {u v : Text} {f g : Captures} :
      Matches p u f → Matches q v g → Matches (.seq p q) (u ++ v) (f ++ g)
  | first {p q : Pattern} {u : Text} {f : Captures} : Matches p u f → Matches (.either p q) u f
  | second {p q : Pattern} {u : Text} {f : Captures} : Matches q u f → Matches (.either p q) u f
  | group {p : Pattern} {u : Text} {f : Captures} (number : Nat) :
      Matches p u f → Matches (.group number p) u (f ++ [(number, u)])

/-! ## Running a pattern -/

section Characters

variable {α : Type} {accepts : Char → Bool} {next : Text → Option α}

theorem runMost_sound {t : Text} {a : α} (h : runMost accepts next t = some a) :
    ∃ u rest, t = u ++ rest ∧ (∀ c ∈ u, accepts c = true) ∧ next rest = some a := by
  induction t with
  | nil => exact ⟨[], [], rfl, nofun, h⟩
  | cons c t ih =>
    rw [runMost] at h
    split at h
    · rename_i accepted
      rcases (Option.orElse_eq_some _ _ _).mp h with more | ⟨_, enough⟩
      · obtain ⟨u, rest, rfl, inClass, goes⟩ := ih more
        exact ⟨c :: u, rest, rfl, List.forall_mem_cons.mpr ⟨accepted, inClass⟩, goes⟩
      · exact ⟨[], c :: t, rfl, nofun, enough⟩
    · exact ⟨[], c :: t, rfl, nofun, h⟩

theorem runFewest_sound {t : Text} {a : α} (h : runFewest accepts next t = some a) :
    ∃ u rest, t = u ++ rest ∧ (∀ c ∈ u, accepts c = true) ∧ next rest = some a := by
  induction t with
  | nil => exact ⟨[], [], rfl, nofun, h⟩
  | cons c t ih =>
    rw [runFewest] at h
    rcases (Option.orElse_eq_some _ _ _).mp h with enough | ⟨_, more⟩
    · exact ⟨[], c :: t, rfl, nofun, enough⟩
    · split at more
      · rename_i accepted
        obtain ⟨u, rest, rfl, inClass, goes⟩ := ih more
        exact ⟨c :: u, rest, rfl, List.forall_mem_cons.mpr ⟨accepted, inClass⟩, goes⟩
      · cases more

theorem runMost_complete {u rest : Text} (inClass : ∀ c ∈ u, accepts c = true)
    (goes : (next rest).isSome) : (runMost accepts next (u ++ rest)).isSome := by
  induction u with
  | nil =>
    cases rest with
    | nil => exact goes
    | cons c rest =>
      rw [List.nil_append, runMost]
      split <;> simp [goes]
  | cons c u ih =>
    obtain ⟨accepted, others⟩ := List.forall_mem_cons.mp inClass
    simp [runMost, accepted, ih others]

theorem runFewest_complete {u rest : Text} (inClass : ∀ c ∈ u, accepts c = true)
    (goes : (next rest).isSome) : (runFewest accepts next (u ++ rest)).isSome := by
  induction u with
  | nil =>
    cases rest with
    | nil => exact goes
    | cons c rest => simp [runFewest, goes]
  | cons c u ih =>
    obtain ⟨accepted, others⟩ := List.forall_mem_cons.mp inClass
    simp [runFewest, accepted, ih others]

end Characters

variable {p : Pattern}

theorem run_sound {next : Text → Option (Captures × Text)} {t left : Text} {found : Captures}
    (h : p.run next t = some (found, left)) :
    ∃ u rest f g, t = u ++ rest ∧ p.Matches u f ∧ next rest = some (g, left) ∧
      found = f ++ g := by
  induction p generalizing next t found with
  | nothing => exact ⟨[], t, [], found, rfl, .nothing, h, rfl⟩
  | one accepts =>
    cases t with
    | nil => cases h
    | cons c rest =>
      rw [run] at h
      split at h
      · exact ⟨[c], rest, [], found, rfl, .one ‹_›, h, rfl⟩
      · cases h
  | most accepts =>
    obtain ⟨u, rest, rfl, inClass, goes⟩ := runMost_sound h
    exact ⟨u, rest, [], found, rfl, .most inClass, goes, rfl⟩
  | fewest accepts =>
    obtain ⟨u, rest, rfl, inClass, goes⟩ := runFewest_sound h
    exact ⟨u, rest, [], found, rfl, .fewest inClass, goes, rfl⟩
  | seq p q ihp ihq =>
    obtain ⟨u, _, f, _, rfl, first, passed, rfl⟩ := ihp h
    obtain ⟨v, rest, g, k, rfl, second, goes, rfl⟩ := ihq passed
    exact ⟨u ++ v, rest, f ++ g, k, by simp, first.seq second, goes, by simp⟩
  | either p q ihp ihq =>
    rcases (Option.orElse_eq_some _ _ _).mp h with first | ⟨_, second⟩
    · obtain ⟨u, rest, f, g, split, matched, goes, rfl⟩ := ihp first
      exact ⟨u, rest, f, g, split, matched.first, goes, rfl⟩
    · obtain ⟨u, rest, f, g, split, matched, goes, rfl⟩ := ihq second
      exact ⟨u, rest, f, g, split, matched.second, goes, rfl⟩
  | group number p ih =>
    obtain ⟨u, rest, f, _, rfl, matched, passed, rfl⟩ := ih h
    obtain ⟨⟨g, _⟩, goes, same⟩ := Option.map_eq_some_iff.mp passed
    obtain ⟨rfl, rfl⟩ := Prod.mk.inj same
    exact ⟨u, rest, f ++ [(number, u)], g, rfl, matched.group number, goes, by simp⟩

theorem run_complete {next : Text → Option (Captures × Text)} {u rest : Text} {f : Captures}
    (h : p.Matches u f) (goes : (next rest).isSome) : (p.run next (u ++ rest)).isSome := by
  induction h generalizing next rest with
  | nothing => exact goes
  | one accepted => simpa [run, accepted] using goes
  | most inClass => exact runMost_complete inClass goes
  | fewest inClass => exact runFewest_complete inClass goes
  | seq _ _ ihp ihq =>
    rw [List.append_assoc]
    exact ihp (ihq goes)
  | first _ ih => simp [run, ih goes]
  | second _ ih => simp [run, ih goes]
  | group number _ ih => exact ih (by simpa using goes)

theorem matchFront?_sound {t left : Text} {found : Captures}
    (h : p.matchFront? t = some (found, left)) :
    ∃ u, t = u ++ left ∧ p.Matches u found := by
  obtain ⟨u, rest, f, g, rfl, matched, goes, rfl⟩ := run_sound h
  obtain ⟨rfl, rfl⟩ := Prod.mk.inj (Option.some.inj goes)
  exact ⟨u, rfl, by simpa using matched⟩

theorem matchFront?_complete {u : Text} {f : Captures} (h : p.Matches u f) (rest : Text) :
    (p.matchFront? (u ++ rest)).isSome :=
  run_complete h rfl

/-! ## Taking matches apart -/

section Parts

variable {q : Pattern} {ps : List Pattern} {u : Text} {found : Captures} {accepts : Char → Bool}

theorem matches_nothing_iff : Matches .nothing u found ↔ u = [] ∧ found = [] := by
  constructor
  · rintro ⟨⟩
    exact ⟨rfl, rfl⟩
  · rintro ⟨rfl, rfl⟩
    exact .nothing

theorem matches_one_iff :
    Matches (.one accepts) u found ↔ ∃ c, accepts c = true ∧ u = [c] ∧ found = [] := by
  constructor
  · rintro ⟨⟩
    exact ⟨_, ‹_›, rfl, rfl⟩
  · rintro ⟨c, accepted, rfl, rfl⟩
    exact .one accepted

theorem matches_mark_iff {c : Char} : Matches (mark c) u found ↔ u = [c] ∧ found = [] := by
  simp [mark, matches_one_iff]

theorem matches_most_iff :
    Matches (.most accepts) u found ↔ (∀ c ∈ u, accepts c = true) ∧ found = [] := by
  constructor
  · rintro ⟨⟩
    exact ⟨‹_›, rfl⟩
  · rintro ⟨inClass, rfl⟩
    exact .most inClass

theorem matches_fewest_iff :
    Matches (.fewest accepts) u found ↔ Matches (.most accepts) u found := by
  constructor
  · rintro ⟨⟩
    exact .most ‹_›
  · rintro ⟨⟩
    exact .fewest ‹_›

theorem matches_seq_iff :
    Matches (.seq p q) u found ↔
      ∃ v w f g, Matches p v f ∧ Matches q w g ∧ u = v ++ w ∧ found = f ++ g := by
  constructor
  · rintro ⟨⟩
    exact ⟨_, _, _, _, ‹_›, ‹_›, rfl, rfl⟩
  · rintro ⟨v, w, f, g, first, second, rfl, rfl⟩
    exact first.seq second

theorem matches_either_iff :
    Matches (.either p q) u found ↔ Matches p u found ∨ Matches q u found := by
  constructor
  · rintro ⟨⟩
    · exact Or.inl ‹_›
    · exact Or.inr ‹_›
  · rintro (first | second)
    · exact first.first
    · exact second.second

theorem matches_optional_iff :
    Matches (optional p) u found ↔ Matches p u found ∨ u = [] ∧ found = [] := by
  rw [optional, matches_either_iff, matches_nothing_iff]

theorem matches_group_iff {number : Nat} :
    Matches (.group number p) u found ↔ ∃ f, Matches p u f ∧ found = f ++ [(number, u)] := by
  constructor
  · rintro ⟨⟩
    exact ⟨_, ‹_›, rfl⟩
  · rintro ⟨f, matched, rfl⟩
    exact matched.group number

theorem matches_mostOf_iff :
    Matches (mostOf accepts) u found ↔
      u ≠ [] ∧ (∀ c ∈ u, accepts c = true) ∧ found = [] := by
  rw [mostOf, matches_seq_iff]
  constructor
  · rintro ⟨v, w, f, g, first, others, rfl, rfl⟩
    obtain ⟨c, accepted, rfl, rfl⟩ := matches_one_iff.mp first
    obtain ⟨inClass, rfl⟩ := matches_most_iff.mp others
    exact ⟨nofun, List.forall_mem_cons.mpr ⟨accepted, inClass⟩, rfl⟩
  · rintro ⟨nonempty, inClass, rfl⟩
    obtain ⟨c, w, rfl⟩ := List.exists_cons_of_ne_nil nonempty
    obtain ⟨accepted, others⟩ := List.forall_mem_cons.mp inClass
    exact ⟨[c], w, [], [], .one accepted, .most others, rfl, rfl⟩

theorem matches_fewestOf_iff :
    Matches (fewestOf accepts) u found ↔ Matches (mostOf accepts) u found := by
  simp only [fewestOf, mostOf, matches_seq_iff, matches_fewest_iff]

theorem forall_mem_bne {t : Text} {c : Char} : (∀ d ∈ t, (d != c) = true) ↔ c ∉ t := by
  constructor
  · intro all mem
    simpa using all c mem
  · intro none d mem
    rw [bne_iff_ne]
    rintro rfl
    exact none mem

/-! Rows are taken apart from the left. -/

theorem matches_row_nil_iff : Matches (row []) u found ↔ u = [] ∧ found = [] :=
  matches_nothing_iff

theorem matches_row_cons_iff :
    Matches (row (p :: ps)) u found ↔
      ∃ v w f g, Matches p v f ∧ Matches (row ps) w g ∧ u = v ++ w ∧ found = f ++ g :=
  matches_seq_iff

theorem matches_row_mark_iff {c : Char} :
    Matches (row (mark c :: ps)) u found ↔ ∃ w, Matches (row ps) w found ∧ u = c :: w := by
  rw [matches_row_cons_iff]
  constructor
  · rintro ⟨v, w, f, g, first, others, rfl, rfl⟩
    obtain ⟨rfl, rfl⟩ := matches_mark_iff.mp first
    exact ⟨w, others, rfl⟩
  · rintro ⟨w, others, rfl⟩
    exact ⟨[c], w, [], found, matches_mark_iff.mpr ⟨rfl, rfl⟩, others, rfl, rfl⟩

theorem matches_row_most_iff :
    Matches (row (most accepts :: ps)) u found ↔
      ∃ v w, (∀ c ∈ v, accepts c = true) ∧ Matches (row ps) w found ∧ u = v ++ w := by
  rw [matches_row_cons_iff]
  constructor
  · rintro ⟨v, w, f, g, first, others, rfl, rfl⟩
    obtain ⟨inClass, rfl⟩ := matches_most_iff.mp first
    exact ⟨v, w, inClass, others, rfl⟩
  · rintro ⟨v, w, inClass, others, rfl⟩
    exact ⟨v, w, [], found, .most inClass, others, rfl, rfl⟩

theorem matches_row_group_iff {number : Nat} :
    Matches (row (group number p :: ps)) u found ↔
      ∃ v w f g, Matches p v f ∧ Matches (row ps) w g ∧ u = v ++ w ∧
        found = f ++ (number, v) :: g := by
  rw [matches_row_cons_iff]
  constructor
  · rintro ⟨v, w, _, g, first, others, rfl, rfl⟩
    obtain ⟨f, inner, rfl⟩ := matches_group_iff.mp first
    exact ⟨v, w, f, g, inner, others, rfl, by simp⟩
  · rintro ⟨v, w, f, g, inner, others, rfl, rfl⟩
    exact ⟨v, w, f ++ [(number, v)], g, inner.group number, others, rfl, by simp⟩

theorem matches_row_optional_iff :
    Matches (row (optional p :: ps)) u found ↔
      (∃ v w f g, Matches p v f ∧ Matches (row ps) w g ∧ u = v ++ w ∧ found = f ++ g) ∨
        Matches (row ps) u found := by
  rw [matches_row_cons_iff]
  constructor
  · rintro ⟨v, w, f, g, first, others, rfl, rfl⟩
    rcases matches_optional_iff.mp first with taken | ⟨rfl, rfl⟩
    · exact Or.inl ⟨v, w, f, g, taken, others, rfl, rfl⟩
    · exact Or.inr others
  · rintro (⟨v, w, f, g, taken, others, rfl, rfl⟩ | others)
    · exact ⟨v, w, f, g, taken.first, others, rfl, rfl⟩
    · exact ⟨[], u, [], found, Matches.nothing.second, others, rfl, rfl⟩

end Parts

end Pattern
end MacroShell
