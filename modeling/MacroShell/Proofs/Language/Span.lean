import MacroShell.Language.Span
import MacroShell.Proofs.Text.Pattern
import MacroShell.Proofs.Text.Space
import MacroShell.Proofs.Unicode.Classes

/-!
# The grammar of spans

    span   := '$[' space? tag space? ':' body ']'       with no other ']'
    tag    := '@' | '?'? word*
    body   := seed | seed '=>' steps                    with no '=' in the seed

The pattern that spans are read with can take space into the seed and the steps or leave it outside,
but trimming makes up for the difference: all its matches say the same (`Macro.Renders`).
-/

namespace MacroShell
namespace Macro

/-- `@`, or a name, which may be empty, after a question mark or none. -/
def IsTag (t : Text) : Prop :=
  t = ['@'] ∨ ∃ name : Text, (∀ c ∈ name, isWord c = true) ∧ (t = name ∨ t = '?' :: name)

/-- What may follow the colon, with the seed and the steps it stands for. -/
inductive Body : Text → Text → Option Text → Prop
  | seed {seed : Text} : seed ≠ [] → '=' ∉ seed → Body seed seed.trim none
  | steps {seed steps : Text} : seed ≠ [] → '=' ∉ seed → steps ≠ [] →
      Body (seed ++ '=' :: '>' :: steps) seed.trim (some steps.trim)

/-- What may stand between the brackets, with what it says. -/
inductive Inside : Text → Macro → Prop
  | intro {left tag right body seed : Text} {pipeline : Option Text} :
      left.isBlank = true → IsTag tag → right.isBlank = true → Body body seed pipeline →
      Inside (left ++ tag ++ right ++ ':' :: body) ⟨tag, seed, pipeline⟩

def Renders (m : Macro) (text : Text) : Prop :=
  ∃ inside, ']' ∉ inside ∧ Inside inside m ∧ text = '$' :: '[' :: (inside ++ [']'])

/-- Space around seed and steps does not count. -/
theorem Body.seed_of_isBlank {before seed after : Text} (hb : before.isBlank = true)
    (ha : after.isBlank = true) (nonempty : seed ≠ []) (single : '=' ∉ seed) :
    Body (before ++ seed ++ after) seed.trim none := by
  have solid : isSpace '=' = false := by decide
  rw [← Text.trim_append_of_isBlank hb seed ha]
  apply Body.seed
  · simp [nonempty]
  · simp [single, Text.notMem_of_isBlank solid hb, Text.notMem_of_isBlank solid ha]

theorem Body.steps_of_isBlank {before seed gap lead steps after : Text}
    (hb : before.isBlank = true) (hg : gap.isBlank = true) (hl : lead.isBlank = true)
    (ha : after.isBlank = true) (seeded : seed ≠ []) (single : '=' ∉ seed) (stepped : steps ≠ []) :
    Body (before ++ seed ++ gap ++ '=' :: '>' :: (lead ++ steps ++ after)) seed.trim
      (some steps.trim) := by
  have solid : isSpace '=' = false := by decide
  rw [← Text.trim_append_of_isBlank hb seed hg, ← Text.trim_append_of_isBlank hl steps ha]
  apply Body.steps
  · simp [seeded]
  · simp [single, Text.notMem_of_isBlank solid hb, Text.notMem_of_isBlank solid hg]
  · simp [stepped]

theorem IsTag.of_mem {t : Text} (h : IsTag t) {c : Char} (mem : c ∈ t) :
    c = '@' ∨ c = '?' ∨ isWord c = true := by
  rcases h with rfl | ⟨name, word, rfl | rfl⟩
  · exact Or.inl (List.mem_singleton.mp mem)
  · exact Or.inr (Or.inr (word c mem))
  · rcases List.mem_cons.mp mem with rfl | named
    · exact Or.inr (Or.inl rfl)
    · exact Or.inr (Or.inr (word c named))

theorem IsTag.notMem {t : Text} (h : IsTag t) {c : Char}
    (other : c ≠ '@' ∧ c ≠ '?' ∧ isWord c = false) : c ∉ t := by
  intro mem
  rcases h.of_mem mem with rfl | rfl | word
  · exact other.1 rfl
  · exact other.2.1 rfl
  · rw [other.2.2] at word
    cases word

theorem IsTag.solid {t : Text} (h : IsTag t) : ∀ c ∈ t, isSpace c = false := by
  intro c mem
  rw [← Bool.not_eq_true]
  intro space
  rcases h.of_mem mem with rfl | rfl | word
  · exact absurd space (by decide)
  · exact absurd space (by decide)
  · rw [isWord_of_isSpace space] at word
    cases word

/-! ## The pattern -/

section Pattern

open Pattern

theorem matches_tagPattern_iff {u : Text} {found : Captures} :
    tagPattern.Matches u found ↔ IsTag u ∧ found = [] := by
  rw [tagPattern, matches_either_iff, matches_row_optional_iff, matches_mark_iff]
  constructor
  · rintro ((⟨_, _, _, _, mark, named, rfl, rfl⟩ | named) | ⟨rfl, rfl⟩)
    · obtain ⟨rfl, rfl⟩ := matches_mark_iff.mp mark
      obtain ⟨name, _, word, rest, rfl⟩ := matches_row_most_iff.mp named
      obtain ⟨rfl, rfl⟩ := matches_row_nil_iff.mp rest
      exact ⟨Or.inr ⟨name, word, Or.inr (by simp)⟩, rfl⟩
    · obtain ⟨name, _, word, rest, rfl⟩ := matches_row_most_iff.mp named
      obtain ⟨rfl, rfl⟩ := matches_row_nil_iff.mp rest
      exact ⟨Or.inr ⟨name, word, Or.inl (by simp)⟩, rfl⟩
    · exact ⟨Or.inl rfl, rfl⟩
  · have named {name : Text} (word : ∀ c ∈ name, isWord c = true) :
        Matches (row [most isWord]) name [] :=
      matches_row_most_iff.mpr ⟨name, [], word, .nothing, by simp⟩
    rintro ⟨rfl | ⟨name, word, rfl | rfl⟩, rfl⟩
    · exact Or.inr ⟨rfl, rfl⟩
    · exact Or.inl (Or.inr (named word))
    · exact Or.inl (Or.inl ⟨['?'], name, [], [], matches_mark_iff.mpr ⟨rfl, rfl⟩, named word,
        rfl, rfl⟩)

theorem matches_stepsPattern_iff {u : Text} {found : Captures} :
    stepsPattern.Matches u found ↔
      ∃ before after steps : Text, before.isBlank = true ∧ after.isBlank = true ∧ steps ≠ [] ∧
        ']' ∉ steps ∧ u = before ++ '=' :: '>' :: (after ++ steps) ∧ found = [(3, steps)] := by
  simp only [stepsPattern, matches_row_most_iff, matches_row_mark_iff, matches_row_group_iff,
    matches_row_nil_iff, matches_mostOf_iff, forall_mem_bne, Text.isBlank, List.all_eq_true]
  constructor
  · rintro ⟨before, _, blank, ⟨_, ⟨_, ⟨after, _, blank', ⟨steps, _, _, _, ⟨nonempty, noClose, rfl⟩,
      ⟨rfl, rfl⟩, rfl, rfl⟩, rfl⟩, rfl⟩, rfl⟩, rfl⟩
    exact ⟨before, after, steps, blank, blank', nonempty, noClose, by simp, rfl⟩
  · rintro ⟨before, after, steps, blank, blank', nonempty, noClose, rfl, rfl⟩
    exact ⟨before, _, blank, ⟨_, ⟨_, ⟨after, _, blank', ⟨steps, [], [], [],
      ⟨nonempty, noClose, rfl⟩, ⟨rfl, rfl⟩, rfl, rfl⟩, rfl⟩, rfl⟩, rfl⟩, by simp⟩

theorem forall_mem_seed {seed : Text} :
    (∀ c ∈ seed, (c != '=' && c != ']') = true) ↔ '=' ∉ seed ∧ ']' ∉ seed := by
  simp only [Bool.and_eq_true, ← forall_mem_bne, forall₂_and]

theorem bracket_notMem {t : Text} (blank : t.isBlank = true) : ']' ∉ t :=
  Text.notMem_of_isBlank (by decide) blank

/-- However the pattern cuts off space, a match says what the grammar says. -/
theorem body_of_matches {u : Text} {found : Captures} (h : bodyPattern.Matches u found) :
    ']' ∉ u ∧ ∃ seed pipeline, Body u seed pipeline ∧
      ∀ tag, ofCaptures ((1, tag) :: found) = ⟨tag, seed, pipeline⟩ := by
  simp only [bodyPattern, matches_row_most_iff, matches_row_group_iff, matches_row_optional_iff,
    matches_row_nil_iff, matches_fewestOf_iff, matches_mostOf_iff, matches_stepsPattern_iff,
    forall_mem_seed, ← Text.isBlank_iff] at h
  obtain ⟨before, _, hb, ⟨seed, _, _, _, ⟨seeded, ⟨single, noClose⟩, rfl⟩, rest, rfl, rfl⟩,
    rfl⟩ := h
  rcases rest with ⟨_, _, _, _, ⟨gap, lead, steps, hg, hl, stepped, noClose', rfl, rfl⟩,
    ⟨after, _, ha, ⟨rfl, rfl⟩, rfl⟩, rfl, rfl⟩ | ⟨after, _, ha, ⟨rfl, rfl⟩, rfl⟩
  · refine ⟨?_, seed.trim, some steps.trim, ?_, fun tag => rfl⟩
    · simp [bracket_notMem hb, noClose, bracket_notMem hg, bracket_notMem hl, noClose',
        bracket_notMem ha]
    · simpa using Body.steps_of_isBlank hb hg hl ha seeded single stepped
  · refine ⟨?_, seed.trim, none, ?_, fun tag => rfl⟩
    · simp [bracket_notMem hb, noClose, bracket_notMem ha]
    · simpa using Body.seed_of_isBlank hb ha seeded single

theorem Body.matches {u seed : Text} {pipeline : Option Text} (h : Body u seed pipeline)
    (noClose : ']' ∉ u) :
    ∃ found, bodyPattern.Matches u found ∧
      ∀ tag, ofCaptures ((1, tag) :: found) = ⟨tag, seed, pipeline⟩ := by
  simp only [bodyPattern, matches_row_most_iff, matches_row_group_iff, matches_row_optional_iff,
    matches_row_nil_iff, matches_fewestOf_iff, matches_mostOf_iff, matches_stepsPattern_iff,
    forall_mem_seed, ← Text.isBlank_iff]
  cases h with
  | seed seeded single =>
    refine ⟨[(2, u)], ⟨[], u, rfl, ⟨u, [], [], [], ⟨seeded, ⟨single, noClose⟩, rfl⟩,
      Or.inr ⟨[], [], rfl, ⟨rfl, rfl⟩, rfl⟩, by simp, rfl⟩, rfl⟩, fun tag => rfl⟩
  | @steps text more seeded single stepped =>
    obtain ⟨noClose, noClose'⟩ : ']' ∉ text ∧ ']' ∉ more := by simpa using noClose
    refine ⟨[(2, text), (3, more)], ⟨[], _, rfl, ⟨text, '=' :: '>' :: more, [], [(3, more)],
      ⟨seeded, ⟨single, noClose⟩, rfl⟩, Or.inl ⟨'=' :: '>' :: more, [], [(3, more)], [],
        ⟨[], [], more, rfl, rfl, stepped, noClose', rfl, rfl⟩, ⟨[], [], rfl, ⟨rfl, rfl⟩, rfl⟩,
        by simp, rfl⟩, rfl, rfl⟩, rfl⟩, fun tag => rfl⟩

theorem matches_pattern_parts {u : Text} {found : Captures} :
    pattern.Matches u found ↔
      ∃ (left tag right inside : Text) (more : Captures), left.isBlank = true ∧ IsTag tag ∧
        right.isBlank = true ∧ bodyPattern.Matches inside more ∧ found = (1, tag) :: more ∧
        u = '$' :: '[' :: (left ++ tag ++ right ++ ':' :: inside ++ [']']) := by
  simp only [pattern, matches_row_most_iff, matches_row_mark_iff, matches_row_group_iff,
    matches_row_cons_iff (p := bodyPattern), matches_row_nil_iff,
    matches_tagPattern_iff, ← Text.isBlank_iff]
  constructor
  · rintro ⟨_, ⟨_, ⟨left, _, hl, ⟨tag, _, _, _, ⟨tagged, rfl⟩, ⟨right, _, hr, ⟨_, ⟨inside, _, more, _,
      body, ⟨_, ⟨rfl, rfl⟩, rfl⟩, rfl, rfl⟩, rfl⟩, rfl⟩, rfl, rfl⟩, rfl⟩, rfl⟩, rfl⟩
    exact ⟨left, tag, right, inside, more, hl, tagged, hr, body, by simp, by simp⟩
  · rintro ⟨left, tag, right, inside, more, hl, tagged, hr, body, rfl, rfl⟩
    exact ⟨_, ⟨_, ⟨left, _, hl, ⟨tag, _, [], more, ⟨tagged, rfl⟩, ⟨right, _, hr, ⟨_, ⟨inside, _, more,
      [], body, ⟨[], ⟨rfl, rfl⟩, rfl⟩, rfl, by simp⟩, rfl⟩, rfl⟩, rfl, rfl⟩, rfl⟩, rfl⟩, by simp⟩

/-- **The pattern matches the spans of the grammar.** -/
theorem matches_pattern_iff {u : Text} {m : Macro} :
    (∃ found, pattern.Matches u found ∧ ofCaptures found = m) ↔ m.Renders u := by
  simp only [matches_pattern_parts]
  constructor
  · rintro ⟨_, ⟨left, tag, right, inside, more, hl, tagged, hr, body, rfl, rfl⟩, rfl⟩
    obtain ⟨noClose, seed, pipeline, body, reads⟩ := body_of_matches body
    refine ⟨left ++ tag ++ right ++ ':' :: inside, ?_, ?_, by simp⟩
    · simp [bracket_notMem hl, tagged.notMem (c := ']') (by decide), bracket_notMem hr, noClose]
    · simpa [reads] using Inside.intro hl tagged hr body
  · rintro ⟨_, noClose, ⟨hl, tagged, hr, body⟩, rfl⟩
    rename_i left tag right inside seed pipeline
    obtain ⟨more, matched, reads⟩ := body.matches (by simp_all)
    exact ⟨_, ⟨left, tag, right, inside, more, hl, tagged, hr, matched, rfl, by simp⟩, reads tag⟩

end Pattern

/-! ## One reading -/

theorem cut_unique {c : Char} {u v x y : Text} (hu : c ∉ u) (hv : c ∉ v)
    (same : u ++ c :: x = v ++ c :: y) : u = v ∧ x = y := by
  induction u generalizing v with
  | nil =>
    cases v with
    | nil => exact ⟨rfl, (List.cons.inj same).2⟩
    | cons d v => exact absurd (List.cons.inj same).1 (List.ne_of_not_mem_cons hv)
  | cons d u ih =>
    cases v with
    | nil => exact absurd (List.cons.inj same).1.symm (List.ne_of_not_mem_cons hu)
    | cons e v =>
      obtain ⟨rfl, others⟩ := List.cons.inj same
      obtain ⟨rfl, rfl⟩ := ih (List.not_mem_of_not_mem_cons hu) (List.not_mem_of_not_mem_cons hv)
        others
      exact ⟨rfl, rfl⟩

theorem Body.unique {u seed seed' : Text} {pipeline pipeline' : Option Text}
    (h : Body u seed pipeline) (h' : Body u seed' pipeline') :
    seed = seed' ∧ pipeline = pipeline' := by
  cases h with
  | seed _ single =>
    cases h' with
    | seed => exact ⟨rfl, rfl⟩
    | steps => exact absurd single (by simp)
  | @steps text more _ single =>
    generalize same : text ++ '=' :: '>' :: more = u at h'
    cases h' with
    | seed _ single' => exact absurd single' (by simp [← same])
    | steps _ single' =>
      obtain ⟨rfl, arrow⟩ := cut_unique single single' same
      obtain ⟨_, rfl⟩ := List.cons.inj arrow
      exact ⟨rfl, rfl⟩

/-- The first colon ends the tag; trimming recovers it. -/
theorem Inside.cut {t : Text} {m : Macro} (h : Inside t m) :
    ∃ front body : Text, t = front ++ ':' :: body ∧ ':' ∉ front ∧ front.trim = m.tag ∧
      Body body m.seed m.pipeline := by
  obtain ⟨hl, tagged, hr, body⟩ := h
  refine ⟨_, _, rfl, ?_, ?_, body⟩
  · have solid : isSpace ':' = false := by decide
    simp [Text.notMem_of_isBlank solid hl, tagged.notMem (c := ':') (by decide),
      Text.notMem_of_isBlank solid hr]
  · rw [Text.trim_append_of_isBlank hl _ hr, Text.trim_eq_self tagged.solid]

theorem Inside.unique {t : Text} {m m' : Macro} (h : Inside t m) (h' : Inside t m') : m = m' := by
  obtain ⟨front, body, rfl, noColon, tag, reads⟩ := h.cut
  obtain ⟨front', body', same, noColon', tag', reads'⟩ := h'.cut
  obtain ⟨rfl, rfl⟩ := cut_unique noColon noColon' same
  obtain ⟨seed, pipeline⟩ := reads.unique reads'
  cases m
  cases m'
  simp_all

/-- **Of all beginnings of a text at most one is a span**, the one up to the first closing bracket,
and it says one thing. -/
theorem Renders.unique {m m' : Macro} {u v x y : Text} (h : m.Renders u) (h' : m'.Renders v)
    (same : u ++ x = v ++ y) : u = v ∧ m = m' := by
  obtain ⟨inside, noClose, reads, rfl⟩ := h
  obtain ⟨inside', noClose', reads', rfl⟩ := h'
  have cut : inside ++ ']' :: x = inside' ++ ']' :: y := by simpa using same
  obtain ⟨rfl, _⟩ := cut_unique noClose noClose' cut
  exact ⟨rfl, reads.unique reads'⟩

/-- What is read at the front of a text is the span that it begins with. -/
theorem readFront?_eq_some_iff {t : Text} {m : Macro} {length : Nat} :
    readFront? t = some (m, length) ↔
      ∃ u rest, t = u ++ rest ∧ m.Renders u ∧ u.length = length := by
  have sound {m : Macro} {length : Nat} (h : readFront? t = some (m, length)) :
      ∃ u rest, t = u ++ rest ∧ m.Renders u ∧ u.length = length := by
    obtain ⟨⟨found, rest⟩, first, same⟩ := Option.map_eq_some_iff.mp h
    obtain ⟨rfl, rfl⟩ := Prod.mk.inj same
    obtain ⟨u, rfl, matched⟩ := Pattern.matchFront?_sound first
    exact ⟨u, rest, rfl, matches_pattern_iff.mp ⟨found, matched, rfl⟩, by simp⟩
  constructor
  · exact sound
  · rintro ⟨u, rest, rfl, renders, rfl⟩
    -- Something is read; it is a span, and there is only one.
    obtain ⟨found, matched, rfl⟩ := matches_pattern_iff.mpr renders
    have read : (readFront? (u ++ rest)).isSome := by
      rw [readFront?, Option.isSome_map]
      exact Pattern.matchFront?_complete matched rest
    obtain ⟨⟨m, length⟩, read⟩ := Option.isSome_iff_exists.mp read
    obtain ⟨v, rest', same, renders', rfl⟩ := sound read
    obtain ⟨rfl, rfl⟩ := renders.unique renders' same
    exact read

end Macro
end MacroShell
