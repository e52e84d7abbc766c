import Mathlib.Data.List.DropRight
import MacroShell.Text.Basic

/-!
# Space around words

Trimming takes space off both ends and is done when it is done once. The words of a text are its
first word and those of what follows it.
-/

namespace MacroShell
namespace Text

/-! ## Trimming -/

theorem isBlank_iff {t : Text} : t.isBlank = true ↔ ∀ c ∈ t, isSpace c = true :=
  List.all_eq_true

theorem isBlank_cons {c : Char} {t : Text} :
    isBlank (c :: t) = true ↔ isSpace c = true ∧ isBlank t = true :=
  Bool.and_eq_true_iff

theorem solid_of_all {t : Text} (h : t.all (!isSpace ·) = true) : ∀ c ∈ t, isSpace c = false := by
  simpa using h

theorem notMem_of_isBlank {c : Char} (solid : isSpace c = false) {t : Text}
    (h : t.isBlank = true) : c ∉ t := by
  intro mem
  rw [isBlank_iff.mp h c mem] at solid
  cases solid

theorem trimRight_isPrefix (t : Text) : t.trimRight <+: t :=
  List.rdropWhile_prefix isSpace t

theorem trim_isInfix (t : Text) : t.trim <:+: t :=
  t.trimLeft.trimRight_isPrefix.isInfix.trans (List.dropWhile_suffix isSpace).isInfix

theorem isSpace_of_mem_head?_trimLeft {t : Text} {c : Char} (h : c ∈ t.trimLeft.head?) :
    isSpace c = false := by
  have stops := List.head?_dropWhile_not isSpace t
  unfold trimLeft at h
  rw [Option.mem_def.mp h] at stops
  exact stops

theorem isSpace_of_mem_head?_trim {t : Text} {c : Char} (h : c ∈ t.trim.head?) :
    isSpace c = false := by
  obtain ⟨rest, whole⟩ := t.trimLeft.trimRight_isPrefix
  apply isSpace_of_mem_head?_trimLeft (t := t)
  rw [← whole]
  exact List.mem_head?_append_of_mem_head? h

theorem trimLeft_eq_self {t : Text} (first : ∀ c ∈ t.head?, isSpace c = false) :
    t.trimLeft = t := by
  apply List.dropWhile_eq_self_iff.mpr
  intro nonempty
  have here : t[0] ∈ t.head? := by
    rw [List.head?_eq_getElem?]
    exact List.getElem?_eq_getElem nonempty
  simp [first t[0] here]

theorem trimLeft_trim (t : Text) : t.trim.trimLeft = t.trim :=
  trimLeft_eq_self fun _ => isSpace_of_mem_head?_trim

theorem trim_trim (t : Text) : t.trim.trim = t.trim := by
  rw [trim, trimLeft_trim]
  exact t.trimLeft.rdropWhile_idempotent isSpace

theorem trimLeft_eq_nil_iff {t : Text} : t.trimLeft = [] ↔ t.isBlank = true := by
  rw [isBlank_iff]
  exact List.dropWhile_eq_nil_iff

theorem trim_eq_nil_iff {t : Text} : t.trim = [] ↔ t.isBlank = true := by
  have right : t.trim = [] ↔ ∀ c ∈ t.trimLeft, isSpace c = true := List.rdropWhile_eq_nil_iff
  rw [right, ← trimLeft_eq_nil_iff]
  constructor
  · intro blank
    cases h : t.trimLeft with
    | nil => rfl
    | cons c rest =>
      have solid : isSpace c = false := isSpace_of_mem_head?_trimLeft (t := t) (by simp [h])
      rw [blank c (by simp [h])] at solid
      cases solid
  · intro nil
    simp [nil]

theorem trimLeft_append_of_isBlank {u : Text} (h : u.isBlank = true) (t : Text) :
    trimLeft (u ++ t) = trimLeft t :=
  List.dropWhile_append_of_pos (isBlank_iff.mp h)

theorem trimRight_append_of_isBlank (t : Text) {u : Text} (h : u.isBlank = true) :
    trimRight (t ++ u) = trimRight t := by
  have blank : ∀ c ∈ u.reverse, isSpace c = true := by
    intro c hc
    exact isBlank_iff.mp h c (List.mem_reverse.mp hc)
  rw [trimRight, List.reverse_append, List.dropWhile_append_of_pos blank]
  rfl

/-- Space around a text does not matter to what is left of it when it is trimmed. -/
theorem trim_append_of_isBlank {u v : Text} (hu : u.isBlank = true) (t : Text)
    (hv : v.isBlank = true) : trim (u ++ t ++ v) = trim t := by
  rw [List.append_assoc, trim, trimLeft_append_of_isBlank hu]
  by_cases blank : t.isBlank = true
  · rw [trimLeft_append_of_isBlank blank, trimLeft_eq_nil_iff.mpr hv, trim,
      trimLeft_eq_nil_iff.mpr blank]
  · have solid : (t.dropWhile isSpace).isEmpty = false := by
      rw [List.isEmpty_eq_false_iff]
      exact fun nil => blank (trimLeft_eq_nil_iff.mp nil)
    have kept : trimLeft (t ++ v) = trimLeft t ++ v := by
      rw [trimLeft, List.dropWhile_append, solid]
      rfl
    rw [kept, trimRight_append_of_isBlank t.trimLeft hv, trim]

theorem trim_cons_space {c : Char} (h : isSpace c = true) (t : Text) : trim (c :: t) = trim t := by
  have blank : isBlank [c] = true := by simp [isBlank, h]
  simpa using trim_append_of_isBlank blank t (v := []) rfl

theorem trim_append_space {c : Char} (h : isSpace c = true) (t : Text) :
    trim (t ++ [c]) = trim t := by
  have blank : isBlank [c] = true := by simp [isBlank, h]
  exact trim_append_of_isBlank (u := []) rfl t blank

theorem isSpace_of_mem_getLast?_trim {t : Text} {c : Char} (h : c ∈ t.trim.getLast?) :
    isSpace c = false := by
  rw [trim, trimRight, List.getLast?_reverse] at h
  have stops := List.head?_dropWhile_not isSpace t.trimLeft.reverse
  rw [Option.mem_def.mp h] at stops
  exact stops

theorem trimRight_eq_self {t : Text} (last : ∀ c ∈ t.getLast?, isSpace c = false) :
    t.trimRight = t := by
  apply List.rdropWhile_eq_self_iff.mpr
  intro nonempty
  simp [last (t.getLast nonempty) (List.getLast?_eq_some_getLast nonempty)]

/-- A text with a solid character at either end has no space around it. -/
theorem trim_eq_self_of_ends {t : Text} (first : ∀ c ∈ t.head?, isSpace c = false)
    (last : ∀ c ∈ t.getLast?, isSpace c = false) : t.trim = t := by
  rw [trim, trimLeft_eq_self first, trimRight_eq_self last]

/-- A text without space in it has none around it. -/
theorem trim_eq_self {t : Text} (h : ∀ c ∈ t, isSpace c = false) : t.trim = t :=
  trim_eq_self_of_ends (fun c first => h c (List.mem_of_mem_head? first))
    fun c last => h c (List.mem_of_mem_getLast? last)

/-- Between two trimmed texts nothing is taken away. -/
theorem trim_enclosed {front back : Text} (hf : front.trim = front) (hb : back.trim = back)
    (front_ne : front ≠ []) (back_ne : back ≠ []) (middle : Text) :
    trim (front ++ middle ++ back) = front ++ middle ++ back := by
  apply trim_eq_self_of_ends
  · intro c first
    rw [List.append_assoc, List.head?_append_of_ne_nil _ front_ne, ← hf] at first
    exact isSpace_of_mem_head?_trim first
  · intro c last
    rw [List.getLast?_append_of_ne_nil _ back_ne, ← hb] at last
    exact isSpace_of_mem_getLast?_trim last

/-- What is cut off the end of a text without space around it has none at its own end. -/
theorem trimRight_of_isSuffix {t u : Text} (trimmed : t.trim = t) (h : u <:+ t) :
    u.trimRight = u := by
  apply trimRight_eq_self
  intro c last
  obtain ⟨front, whole⟩ := h
  apply isSpace_of_mem_getLast?_trim (t := t)
  rw [trimmed, ← whole]
  exact List.mem_getLast?_append_of_mem_getLast? last

theorem trimLeft_isSuffix (t : Text) : t.trimLeft <:+ t := List.dropWhile_suffix isSpace

/-- Trimming stops at what is not space. -/
theorem trimLeft_append_solid {c : Char} (solid : isSpace c = false) (t u : Text) :
    trimLeft (t ++ c :: u) = trimLeft t ++ c :: u := by
  induction t with
  | nil => simp [trimLeft, solid]
  | cons d t ih =>
    cases space : isSpace d with
    | true => simpa [trimLeft, space] using ih
    | false => simp [trimLeft, space]

theorem trimRight_append_solid {c : Char} (solid : isSpace c = false) (t u : Text) :
    trimRight (t ++ c :: u) = t ++ c :: trimRight u := by
  have left := trimLeft_append_solid solid u.reverse t.reverse
  unfold trimLeft at left
  simp [trimRight, left]

theorem trim_trimLeft (t : Text) : t.trimLeft.trim = t.trim :=
  congrArg trimRight (List.dropWhile_idempotent isSpace t)

theorem trim_trimRight (t : Text) : t.trimRight.trim = t.trim := by
  have blank : isBlank (t.rtakeWhile isSpace) = true :=
    isBlank_iff.mpr fun c mem => List.mem_rtakeWhile_imp mem
  have same := trim_append_of_isBlank (u := []) rfl t.trimRight blank
  have whole : t.trimRight ++ t.rtakeWhile isSpace = t := List.rdropWhile_append_rtakeWhile
  rw [List.nil_append, whole] at same
  exact same.symm

/-- Trimming takes space off either end and nothing else. -/
theorem exists_trim (t : Text) :
    ∃ u v : Text, u.isBlank = true ∧ v.isBlank = true ∧ t = u ++ t.trim ++ v := by
  refine ⟨t.takeWhile isSpace, t.trimLeft.rtakeWhile isSpace, ?_, ?_, ?_⟩
  · exact isBlank_iff.mpr fun c mem => List.mem_takeWhile_imp mem
  · exact isBlank_iff.mpr fun c mem => List.mem_rtakeWhile_imp mem
  · have right : t.trim ++ t.trimLeft.rtakeWhile isSpace = t.trimLeft :=
      List.rdropWhile_append_rtakeWhile
    rw [List.append_assoc, right]
    exact List.takeWhile_append_dropWhile.symm

/-- Only space is lost by trimming. -/
theorem count_trim {c : Char} (solid : isSpace c = false) (t : Text) :
    t.trim.count c = t.count c := by
  have left (u : Text) : (u.dropWhile isSpace).count c = u.count c := by
    have none : (u.takeWhile isSpace).count c = 0 := by
      rw [List.count_eq_zero]
      intro mem
      rw [List.mem_takeWhile_imp mem] at solid
      cases solid
    conv_rhs => rw [← List.takeWhile_append_dropWhile (p := isSpace) (l := u), List.count_append]
    rw [none, Nat.zero_add]
  rw [trim, trimRight, List.count_reverse, left, List.count_reverse, trimLeft, left]

/-! ## Pieces -/

/-- The first piece of a text is at its front; every piece is a part of it, without a character
that separates. -/
theorem splitOn_parts (separates : Char → Bool) (t : Text) :
    ∃ first others, splitOn separates t = first :: others ∧ first <+: t ∧
      ∀ piece ∈ first :: others, piece <:+: t ∧ ∀ c ∈ piece, separates c = false := by
  induction t with
  | nil => exact ⟨[], [], rfl, List.prefix_rfl, by simp⟩
  | cons c rest ih =>
    obtain ⟨first, others, split, front, parts⟩ := ih
    rw [splitOn, split]
    cases separator : separates c with
    | true =>
      refine ⟨[], first :: others, rfl, List.nil_prefix, ?_⟩
      refine List.forall_mem_cons.mpr ⟨⟨List.nil_infix, List.forall_mem_nil _⟩, fun piece mem => ?_⟩
      exact ⟨(parts piece mem).1.trans (List.suffix_cons c rest).isInfix, (parts piece mem).2⟩
    | false =>
      have longer : c :: first <+: c :: rest := List.cons_prefix_cons.mpr ⟨rfl, front⟩
      refine ⟨c :: first, others, rfl, longer, List.forall_mem_cons.mpr ⟨⟨longer.isInfix, ?_⟩, ?_⟩⟩
      · exact List.forall_mem_cons.mpr ⟨separator, (parts first List.mem_cons_self).2⟩
      · intro piece mem
        have part := parts piece (List.mem_cons_of_mem first mem)
        exact ⟨part.1.trans (List.suffix_cons c rest).isInfix, part.2⟩

theorem splitOn_eq_splitOnP (separates : Char → Bool) (t : Text) :
    splitOn separates t = t.splitOnP separates := by
  induction t with
  | nil => rfl
  | cons c rest ih =>
    rw [splitOn, List.splitOnP_cons_eq_if_modifyHead, ih]
    cases h : rest.splitOnP separates with
    | nil => exact absurd h (List.splitOnP_ne_nil separates rest)
    | cons piece pieces => rfl

/-! ## Words -/

def firstWord (t : Text) : Text := t.takeWhile (!isSpace ·)

def afterWord (t : Text) : Text := t.dropWhile (!isSpace ·)

theorem firstWord_append_afterWord (t : Text) : t.firstWord ++ t.afterWord = t :=
  List.takeWhile_append_dropWhile

theorem isSpace_of_mem_head?_afterWord {t : Text} {c : Char} (h : c ∈ t.afterWord.head?) :
    isSpace c = true := by
  have stops := List.head?_dropWhile_not (!isSpace ·) t
  unfold afterWord at h
  rw [Option.mem_def.mp h] at stops
  simpa using stops

theorem isSpace_of_mem_firstWord {t : Text} {c : Char} (h : c ∈ t.firstWord) :
    isSpace c = false := by
  simpa using List.mem_takeWhile_imp h

theorem firstWord_eq_self {t : Text} (h : ∀ c ∈ t, isSpace c = false) : t.firstWord = t :=
  List.takeWhile_eq_self_iff.mpr fun c mem => by simp [h c mem]

/-- A text without space at its front starts with a word. -/
theorem firstWord_ne_nil {t : Text} (nonempty : t ≠ []) (trimmed : t.trim = t) :
    t.firstWord ≠ [] := by
  cases t with
  | nil => exact absurd rfl nonempty
  | cons c rest =>
    have solid : isSpace c = false := isSpace_of_mem_head?_trim (t := c :: rest) (by simp [trimmed])
    simp [firstWord, solid]

/-- Space cuts a text in two, and no word lies on both sides of it. -/
theorem words_append_cons_space {c : Char} (space : isSpace c = true) (t u : Text) :
    words (t ++ c :: u) = words t ++ words u := by
  simp only [words, splitOn_eq_splitOnP, List.splitOnP_append_cons t u space, List.filter_append]

theorem words_cons_space {c : Char} (h : isSpace c = true) (t : Text) :
    words (c :: t) = words t :=
  words_append_cons_space h [] t

theorem words_blank_append {u : Text} (h : u.isBlank = true) (t : Text) :
    words (u ++ t) = words t := by
  induction u with
  | nil => rfl
  | cons c u ih =>
    obtain ⟨space, blank⟩ := isBlank_cons.mp h
    rw [List.cons_append, words_cons_space space, ih blank]

theorem words_of_isBlank {t : Text} (h : t.isBlank = true) : words t = [] := by
  rw [← List.append_nil t]
  exact words_blank_append h []

theorem words_append_blank (t : Text) {u : Text} (h : u.isBlank = true) :
    words (t ++ u) = words t := by
  cases u with
  | nil => rw [List.append_nil]
  | cons c u =>
    obtain ⟨space, blank⟩ := isBlank_cons.mp h
    rw [words_append_cons_space space, words_of_isBlank blank, List.append_nil]

theorem words_trim (t : Text) : t.trim.words = t.words := by
  obtain ⟨u, v, hu, hv, whole⟩ := t.exists_trim
  conv_rhs => rw [whole, words_append_blank _ hv, words_blank_append hu]

theorem words_of_solid {w : Text} (nonempty : w ≠ []) (solid : ∀ c ∈ w, isSpace c = false) :
    words w = [w] := by
  simp [words, splitOn_eq_splitOnP, List.splitOnP_eq_singleton solid, nonempty]

/-- A word is read up to the space after it. -/
theorem words_append {w rest : Text} (nonempty : w ≠ []) (solid : ∀ c ∈ w, isSpace c = false)
    (ends : ∀ c ∈ rest.head?, isSpace c = true) : words (w ++ rest) = w :: words rest := by
  have single := words_of_solid nonempty solid
  cases rest with
  | nil => rw [List.append_nil, single, words_of_isBlank rfl]
  | cons c rest =>
    have space : isSpace c = true := ends c rfl
    rw [words_append_cons_space space, words_cons_space space, single, List.singleton_append]

theorem words_eq_cons {t : Text} (nonempty : t ≠ []) (trimmed : t.trim = t) :
    t.words = t.firstWord :: t.afterWord.words := by
  conv_lhs => rw [← t.firstWord_append_afterWord]
  exact words_append (firstWord_ne_nil nonempty trimmed) (fun _ => isSpace_of_mem_firstWord)
    fun _ => isSpace_of_mem_head?_afterWord

end Text
end MacroShell
