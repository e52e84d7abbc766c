import Mathlib.Data.Bool.AllAny
import MacroShell.Proofs.Language.Leftmost
import MacroShell.Proofs.Text.Arrow

/-!
# Spans as they are typed

    $[tag:seed]
    $[tag:seed => steps]

The seed is read up to the first equals sign, and not up to the arrow: one equals sign in it is
enough to hide the span.
-/

namespace MacroShell
namespace Macro

/-- The text of a span: its tag, its seed, and the steps behind an arrow. -/
def typed (tag seed : Text) (steps : Option Text) : Text :=
  "$[".toList ++ (tag ++ ':' :: (seed ++ (steps.map (" => ".toList ++ ·)).getD []) ++ [']'])

/-- No tag, a question mark, the mark of generators, or the name of a type in any letter case. -/
def IsTypedTag (tag : Text) : Prop :=
  tag ∈ [[], ['?'], ['@']] ∨ ∃ k : Kind, tag.map Char.toLower = k.name.map Char.toLower

theorem isWord_of_toLower {c : Char} :
    c.toLower ∈ "abcdefghijklmnopqrstuvwxyz".toList → isWord c = true := by
  have letters : "abcdefghijklmnopqrstuvwxyz".toList.all isWord = true := by decide +kernel
  have common : ∀ n < 128, (Char.ofNat n).toLower ∈ "abcdefghijklmnopqrstuvwxyz".toList →
      isWord (Char.ofNat n) = true := by decide +kernel
  apply toLower_cases (p := fun c =>
    c.toLower ∈ "abcdefghijklmnopqrstuvwxyz".toList → isWord c = true) common
  intro c same letter
  rw [same] at letter
  exact List.all_eq_true.mp letters c letter

theorem IsTypedTag.isTag {tag : Text} (h : IsTypedTag tag) : IsTag tag := by
  rcases h with mark | ⟨k, named⟩
  · simp only [List.mem_cons, List.not_mem_nil, or_false] at mark
    rcases mark with rfl | rfl | rfl
    · exact Or.inr ⟨[], by simp, Or.inl rfl⟩
    · exact Or.inr ⟨[], by simp, Or.inr rfl⟩
    · exact Or.inl rfl
  · have letters : ∀ c ∈ k.name.map Char.toLower, c ∈ "abcdefghijklmnopqrstuvwxyz".toList := by
      cases k <;> exact List.all_iff_forall_prop.mp (by decide)
    refine Or.inr ⟨tag, ?_, Or.inl rfl⟩
    intro c mem
    apply isWord_of_toLower
    apply letters
    rw [← named]
    exact List.mem_map_of_mem mem

/-- In a body the first equals sign is part of an arrow. -/
theorem Body.exists_arrow {body seed : Text} {pipeline : Option Text} (h : Body body seed pipeline)
    (mem : '=' ∈ body) : ∃ before after, body = before ++ '=' :: '>' :: after ∧ '=' ∉ before := by
  cases h with
  | seed _ single => exact absurd mem single
  | steps _ single _ => exact ⟨_, _, rfl, single⟩

section
variable {tag seed : Text} {steps : Option Text} (tagged : IsTag tag)
  (open_seed : ']' ∉ seed) (open_steps : ∀ p ∈ steps, ']' ∉ p)
include tagged open_seed open_steps

/-- The closing bracket of a typed span is its only one. -/
theorem bracket_notMem_typed :
    ']' ∉ tag ++ ':' :: (seed ++ (steps.map (" => ".toList ++ ·)).getD []) := by
  have inTag : ']' ∉ tag := tagged.notMem (by decide)
  cases steps with
  | none => simp [inTag, open_seed]
  | some p => simp [inTag, open_seed, open_steps p rfl]

/-- Without an equals sign in its seed a typed span is one of the grammar. -/
theorem renders_typed (seeded : seed ≠ []) (stepped : ∀ p ∈ steps, p ≠ []) (single : '=' ∉ seed) :
    Renders ⟨tag, seed.trim, steps.map Text.trim⟩ (typed tag seed steps) := by
  have nothing : Text.isBlank [] = true := rfl
  have body : Body (seed ++ (steps.map (" => ".toList ++ ·)).getD []) seed.trim
      (steps.map Text.trim) := by
    cases steps with
    | none => simpa using Body.seed seeded single
    | some p =>
      have blank : Text.isBlank [' '] = true := by decide
      have spaced := Body.steps_of_isBlank nothing blank blank nothing seeded single (stepped p rfl)
      simpa using spaced
  refine ⟨_, bracket_notMem_typed tagged open_seed open_steps, ?_, rfl⟩
  simpa using Inside.intro nothing tagged nothing body

/-- A text that starts with a typed span, but has an equals sign in the seed, starts with no span of
the grammar: no arrow follows where the seed would end. -/
theorem single_of_renders (noArrow : ¬ seed.HasArrow) {m : Macro} {u rest : Text}
    (renders : m.Renders u) (same : typed tag seed steps = u ++ rest) : '=' ∉ seed := by
  obtain ⟨inside, noClose, reads, rfl⟩ := renders
  have cut : (tag ++ ':' :: (seed ++ (steps.map (" => ".toList ++ ·)).getD [])) ++ ']' :: [] =
      inside ++ ']' :: rest := by simpa [typed] using same
  obtain ⟨rfl, -⟩ := cut_unique (bracket_notMem_typed tagged open_seed open_steps) noClose cut
  obtain ⟨front, body, split, noColon, -, reads⟩ := reads.cut
  obtain ⟨-, rfl⟩ := cut_unique (tagged.notMem (c := ':') (by decide)) noColon split
  intro mem
  obtain ⟨before, after, rfl, first⟩ := List.eq_append_cons_of_mem mem
  obtain ⟨front, others, whole, first'⟩ := reads.exists_arrow (List.mem_append_left _ mem)
  rw [List.append_assoc, List.cons_append] at whole
  obtain ⟨rfl, behind⟩ := cut_unique first first' whole
  cases after with
  | nil =>
    -- The seed ends here, and in front of the arrow of the steps there is a space.
    cases steps with
    | none => cases behind
    | some p => exact absurd (List.cons.inj behind).1 (by decide)
  | cons c after =>
    obtain ⟨rfl, -⟩ := List.cons.inj behind
    exact noArrow ⟨before, after, by simp⟩

end

end Macro

namespace Line

open Macro

/-- **A typed span is found as it was typed, if and only if there is no equals sign in its seed.**
With an equals sign in the seed, no span starts where the typed one does. -/
theorem spans_typed {tag seed : Text} {steps : Option Text} (tagged : IsTypedTag tag)
    (solid : seed.isBlank = false) (noArrow : ¬ seed.HasArrow) (open_seed : ']' ∉ seed)
    (stepped : ∀ p ∈ steps, p.isBlank = false ∧ ']' ∉ p) :
    let line := typed tag seed steps
    (spans line = [⟨⟨tag, seed.trim, steps.map Text.trim⟩, 0, line.length⟩] ↔ '=' ∉ seed) ∧
      ('=' ∈ seed → ∀ s ∈ spans line, 0 < s.start) := by
  intro line
  have filled {t : Text} (solid : t.isBlank = false) : t ≠ [] := by
    rintro rfl
    cases solid
  have open_steps : ∀ p ∈ steps, ']' ∉ p := fun p mem => (stepped p mem).2
  have later : '=' ∈ seed → ∀ s ∈ spans line, 0 < s.start := by
    intro mem s found
    have leftmost := (leftmost_spans line).mem_iff.mp found
    obtain ⟨⟨before, u, rest, whole, renders, start, -⟩, -⟩ := leftmost
    rw [Nat.pos_iff_ne_zero]
    intro zero
    obtain rfl : before = [] := List.length_eq_zero_iff.mp (start.symm.trans zero)
    exact single_of_renders tagged.isTag open_seed open_steps noArrow renders whole mem
  refine ⟨⟨?_, ?_⟩, later⟩
  · intro one mem
    have first := later mem ⟨⟨tag, seed.trim, steps.map Text.trim⟩, 0, line.length⟩ (by simp [one])
    exact Nat.lt_irrefl 0 first
  · intro single
    have renders := renders_typed tagged.isTag open_seed open_steps (filled solid)
      (fun p mem => filled (stepped p mem).1) single
    have read := pieces_span renders []
    rw [List.append_nil] at read
    change spansFrom 0 (pieces line) = _
    rw [read]
    simp [spansFrom, pieces, piecesAfter, line]

/-- A dollar sign and a bracket may stand in a seed, and the letter case of the tag is kept. -/
theorem spans_typed_nested :
    let line := typed "dAtE".toList " $[> 1 ".toList (some " Time=> Time.Min".toList)
    line = "$[dAtE: $[> 1  =>  Time=> Time.Min]".toList ∧
      spans line = [⟨⟨"dAtE".toList, "$[> 1".toList, some "Time=> Time.Min".toList⟩, 0, 35⟩] := by
  have found := @spans_typed "dAtE".toList " $[> 1 ".toList (some " Time=> Time.Min".toList)
    (Or.inr ⟨.date, by decide⟩) (by decide) (by decide) (by decide) (by decide)
  exact ⟨by decide, found.1.mpr (by decide)⟩

/-- An equals sign in the seed hides the span. -/
theorem spans_typed_equals : ¬ ∀ (tag seed : Text) (steps : Option Text), IsTypedTag tag →
    seed.isBlank = false → ¬ seed.HasArrow → ']' ∉ seed →
    (∀ p ∈ steps, p.isBlank = false ∧ ']' ∉ p) →
    spans (typed tag seed steps) =
      [⟨⟨tag, seed.trim, steps.map Text.trim⟩, 0, (typed tag seed steps).length⟩] := by
  intro all
  have found := all "String".toList "a=b".toList none (Or.inr ⟨.string, by decide⟩) (by decide)
    (by decide) (by decide) (by simp)
  have nothing : spans (typed "String".toList "a=b".toList none) = [] := by decide +kernel
  rw [nothing] at found
  cases found

end Line
end MacroShell
