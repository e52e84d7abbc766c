import MacroShell.Proofs.Text.Space

/-!
# Words with space between them

A text without space around it is its first word, then space and a text of the same kind, if it has
more words than one.
-/

namespace MacroShell
namespace Text

/-! ## The first word -/

/-- A text cut behind its first word into that word, space, and a text without space around it.
There is space behind the word only if more words follow. -/
structure IsCut (t word space rest : Text) : Prop where
  whole : t = word ++ space ++ rest
  nonempty : word ≠ []
  solid : ∀ c ∈ word, isSpace c = false
  blank : space.isBlank = true
  trimmed : rest.trim = rest
  space_eq_nil_iff : space = [] ↔ rest = []

theorem isCut_firstWord {t : Text} (nonempty : t ≠ []) (trimmed : t.trim = t) :
    t.IsCut t.firstWord (t.afterWord.takeWhile isSpace) t.afterWord.trim := by
  have behind : t.afterWord <:+ t := List.dropWhile_suffix _
  have front : t.afterWord.trim = t.afterWord.trimLeft :=
    trimRight_of_isSuffix trimmed (t.afterWord.trimLeft_isSuffix.trans behind)
  refine ⟨?whole, firstWord_ne_nil nonempty trimmed, fun _ => isSpace_of_mem_firstWord, ?blank,
    t.afterWord.trim_trim, ?apart, ?single⟩
  case whole =>
    have after : t.afterWord.takeWhile isSpace ++ t.afterWord.trimLeft = t.afterWord :=
      List.takeWhile_append_dropWhile
    rw [front, List.append_assoc, after, firstWord_append_afterWord]
  case blank => exact isBlank_iff.mpr fun c mem => List.mem_takeWhile_imp mem
  case apart =>
    intro nil
    cases after : t.afterWord with
    | nil => rfl
    | cons c rest =>
      have space : isSpace c = true := isSpace_of_mem_head?_afterWord (t := t) (by simp [after])
      simp [after, space] at nil
  case single =>
    -- If only space followed the word, the text would not be without space at its end.
    intro nil
    have gone : t.afterWord = [] := by
      rw [← trimRight_of_isSuffix trimmed behind]
      exact trimRight_append_of_isBlank [] (trim_eq_nil_iff.mp nil)
    rw [gone]
    rfl

namespace IsCut
variable {t word space rest : Text}

theorem trim_eq (h : t.IsCut word space rest) : t.trim = t := by
  have first : word.trim = word := trim_eq_self h.solid
  rw [h.whole]
  by_cases single : rest = []
  · rw [single, h.space_eq_nil_iff.mpr single, List.append_nil, List.append_nil, first]
  · exact trim_enclosed first h.trimmed h.nonempty single space

theorem words_eq (h : t.IsCut word space rest) : t.words = word :: rest.words := by
  have ends : ∀ c ∈ (space ++ rest).head?, isSpace c = true := by
    cases split : space with
    | nil => simp [h.space_eq_nil_iff.mp split]
    | cons c others =>
      rintro c ⟨⟩
      exact (isBlank_cons.mp (split ▸ h.blank)).1
  rw [h.whole, List.append_assoc, words_append h.nonempty h.solid ends, words_blank_append h.blank]

end IsCut

/-! ## All words -/

/-- A text made up of words with space between them, without space around it. -/
inductive IsSpaced : Text → List Text → Prop
  | nil : IsSpaced [] []
  | cons {t word space rest : Text} {others : List Text} (cut : t.IsCut word space rest)
      (spaced : IsSpaced rest others) : IsSpaced t (word :: others)

namespace IsSpaced
variable {t : Text} {words : List Text}

theorem trim_eq (h : t.IsSpaced words) : t.trim = t := by
  cases h with
  | nil => rfl
  | cons cut _ => exact cut.trim_eq

theorem words_eq (h : t.IsSpaced words) : t.words = words := by
  induction h with
  | nil => rfl
  | cons cut _ ih => rw [cut.words_eq, ih]

theorem eq_nil_iff (h : t.IsSpaced words) : t = [] ↔ words = [] := by
  cases h with
  | nil => exact iff_of_true rfl rfl
  | cons cut _ => exact iff_of_false (by simp [cut.whole, cut.nonempty]) nofun

end IsSpaced

theorem isSpaced_words {t : Text} (trimmed : t.trim = t) : t.IsSpaced t.words := by
  by_cases empty : t = []
  · rw [empty]
    exact .nil
  · have cut := isCut_firstWord empty trimmed
    rw [cut.words_eq]
    exact .cons cut (isSpaced_words cut.trimmed)
termination_by t.length
decreasing_by
  -- The first word is not empty, so that what follows it is shorter than the text.
  have shorter := congrArg List.length cut.whole
  have filled := List.length_pos_of_ne_nil cut.nonempty
  simp only [List.length_append] at shorter
  omega

/-- **A text is made up of its words** and of no others, if there is no space around it. -/
theorem isSpaced_iff {t : Text} {words : List Text} :
    t.IsSpaced words ↔ t.trim = t ∧ t.words = words := by
  constructor
  · exact fun h => ⟨h.trim_eq, h.words_eq⟩
  · rintro ⟨trimmed, rfl⟩
    exact isSpaced_words trimmed

/-- Behind the first of several joined words there is one space. -/
theorem isCut_join {word : Text} {words : List Text} (nonempty : word ≠ [])
    (solid : ∀ c ∈ word, isSpace c = false) (others : (join [' '] words).IsSpaced words) :
    ∃ space, (join [' '] (word :: words)).IsCut word space (join [' '] words) := by
  cases words with
  | nil => exact ⟨[], by simp [join], nonempty, solid, rfl, rfl, iff_of_true rfl rfl⟩
  | cons second rest =>
    have filled : join [' '] (second :: rest) ≠ [] := fun nil => nomatch others.eq_nil_iff.mp nil
    refine ⟨[' '], ?_, nonempty, solid, by decide, others.trim_eq, iff_of_false nofun filled⟩
    simp [join, List.intercalate_cons_cons]

/-- **Single spaces between the words** of a text leave it the same words. -/
theorem IsSpaced.join {t : Text} {words : List Text} (h : t.IsSpaced words) :
    (Text.join [' '] words).IsSpaced words := by
  induction h with
  | nil => exact .nil
  | cons cut _ ih =>
    obtain ⟨space, joined⟩ := isCut_join cut.nonempty cut.solid ih
    exact .cons joined ih

end Text
end MacroShell
