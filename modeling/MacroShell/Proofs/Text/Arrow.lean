import Mathlib.Data.List.Infix
import MacroShell.Proofs.Text.Case
import MacroShell.Proofs.Text.Space

/-!
# Arrows

A text is cut at its first arrow, if there is one: what stands before the cut has none. Letter case
does not matter to arrows.
-/

namespace MacroShell
namespace Text

def HasArrow (t : Text) : Prop := "=>".toList <:+: t

instance (t : Text) : Decidable t.HasArrow := inferInstanceAs (Decidable (_ <:+: _))

theorem not_hasArrow_nil : ¬ HasArrow [] := by decide

theorem hasArrow_arrow (rest : Text) : HasArrow ('=' :: '>' :: rest) := ⟨[], rest, rfl⟩

/-- An arrow further on is still there when the first character is none of it. -/
theorem hasArrow_cons {c : Char} {rest : Text} (h : ∀ tail, c = '=' → rest = '>' :: tail → False) :
    HasArrow (c :: rest) ↔ HasArrow rest := by
  rw [HasArrow, List.infix_cons_iff]
  refine or_iff_right ?_
  rintro ⟨tail, split⟩
  obtain ⟨rfl, others⟩ := List.cons.inj split
  exact h tail rfl others.symm

theorem cutArrow?_isSome_iff {t : Text} : t.cutArrow?.isSome = true ↔ t.HasArrow := by
  fun_induction cutArrow? t with
  | case1 => exact iff_of_false nofun not_hasArrow_nil
  | case2 rest => exact iff_of_true rfl (hasArrow_arrow rest)
  | case3 c rest h ih => rw [Option.isSome_map, ih, hasArrow_cons h]

theorem cutArrow?_eq_some {t before after : Text} (h : t.cutArrow? = some (before, after)) :
    t = before ++ '=' :: '>' :: after ∧ ¬ before.HasArrow := by
  fun_induction cutArrow? t generalizing before with
  | case1 => cases h
  | case2 rest =>
    cases h
    exact ⟨rfl, not_hasArrow_nil⟩
  | case3 c rest first ih =>
    obtain ⟨⟨front, back⟩, cut, same⟩ := Option.map_eq_some_iff.mp h
    cases same
    obtain ⟨rfl, none⟩ := ih cut
    refine ⟨rfl, ?_⟩
    rw [hasArrow_cons]
    · exact none
    · rintro tail rfl rfl
      exact first _ rfl rfl

/-- A text is cut at the arrow behind one that has none, whatever that one ends in. -/
theorem cutArrow?_append {before : Text} (h : ¬ before.HasArrow) (after : Text) :
    cutArrow? (before ++ '=' :: '>' :: after) = some (before, after) := by
  induction before with
  | nil => rfl
  | cons c rest ih =>
    have plain : ∀ tail, c = '=' → rest = '>' :: tail → False := by
      rintro tail rfl rfl
      exact h (hasArrow_arrow tail)
    have behind : ∀ tail, c = '=' → rest ++ '=' :: '>' :: after = '>' :: tail → False := by
      intro tail equals starts
      cases rest with
      | nil => cases starts
      | cons d rest => exact plain rest equals (by rw [(List.cons.inj starts).1])
    rw [hasArrow_cons plain] at h
    rw [List.cons_append, cutArrow?.eq_3 _ _ behind, ih h]
    rfl

theorem hasArrow_append_singleton {c : Char} (h : c ≠ '>') {t : Text} :
    HasArrow (t ++ [c]) ↔ HasArrow t := by
  rw [HasArrow, List.infix_concat_iff]
  refine or_iff_right ?_
  rintro ⟨front, whole⟩
  have last : '>' = c := by simpa using congrArg List.getLast? whole
  exact h last.symm

theorem hasArrow_append_of_notMem {u : Text} (h : '=' ∉ u) {t : Text} :
    HasArrow (u ++ t) ↔ HasArrow t := by
  induction u with
  | nil => rfl
  | cons c u ih =>
    have other : ∀ tail, c = '=' → u ++ t = '>' :: tail → False := by
      rintro tail rfl
      exact absurd List.mem_cons_self h
    rw [List.cons_append, hasArrow_cons other, ih (List.not_mem_of_not_mem_cons h)]

/-- Trimming brings no arrow in. -/
theorem HasArrow.of_trim {t : Text} (h : t.trim.HasArrow) : t.HasArrow := h.trans t.trim_isInfix

/-! ## Small letters -/

/-- What a character leaves in small letters holds no mark but itself. -/
theorem notMem_lowered {c d : Char} (low : d.toNat < 'a'.toNat) (mark : d ≠ '\x00') (h : c ≠ d)
    (before after : Text) : d ∉ if c = 'Σ' then [smallSigma before after] else smallForm c := by
  split
  · rw [List.mem_singleton, smallSigma]
    rintro rfl
    split at low <;> exact absurd low (by decide)
  · exact notMem_smallForm low mark h

theorem head?_lowerAfter {d : Char} (low : d.toNat < 'a'.toNat) (mark : d ≠ '\x00')
    {before t tail : Text} (h : lowerAfter before t = d :: tail) : ∃ rest, t = d :: rest := by
  cases t with
  | nil => cases h
  | cons c rest =>
    by_cases same : c = d
    · exact ⟨rest, by rw [same]⟩
    · exfalso
      have absent := notMem_lowered low mark same before rest
      rw [lowerAfter] at h
      split at h <;> rename_i sigma
      · rw [if_pos sigma] at absent
        exact absent (by simp [(List.cons.inj h).1])
      · rw [if_neg sigma] at absent
        obtain ⟨first, others, form⟩ := List.exists_cons_of_ne_nil (smallForm_ne_nil c)
        rw [form] at h absent
        exact absent (by simp [(List.cons.inj h).1])

theorem hasArrow_lowerAfter_iff {t : Text} (before : Text) :
    HasArrow (lowerAfter before t) ↔ HasArrow t := by
  induction t using cutArrow?.induct generalizing before with
  | case1 => rfl
  | case2 rest =>
    have marks : smallForm '=' = ['='] ∧ smallForm '>' = ['>'] := by decide
    simp [lowerAfter, marks, hasArrow_arrow]
  | case3 c rest plain ih =>
    rw [hasArrow_cons plain, ← ih (c :: before), lowerAfter]
    by_cases equals : c = '='
    · subst equals
      have small : smallForm '=' = ['='] := by decide
      rw [if_neg (by decide), small, List.singleton_append, hasArrow_cons]
      intro tail _ starts
      obtain ⟨others, split⟩ := head?_lowerAfter (by decide) (by decide) starts
      exact plain others rfl split
    · exact hasArrow_append_of_notMem (notMem_lowered (by decide) (by decide) equals before rest)

theorem hasArrow_lower_iff {t : Text} : HasArrow t.lower ↔ HasArrow t := hasArrow_lowerAfter_iff []

end Text
end MacroShell
