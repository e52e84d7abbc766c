import MacroShell.Calendar.Layout
import MacroShell.Proofs.Calendar.Moment
import MacroShell.Proofs.Number.Integer

/-!
# Reading along layouts

A part of a layout takes its characters off the front of a text, and the next part goes on behind
them. A field that is written plain or in two digits is taken whole before any separator.
-/

namespace MacroShell

/-! ## Spellings of a field -/

/-- The ways to write a field: plain, and in two digits. -/
def spellings (n : Nat) : List Text := [naturalText n, twoDigits n]

theorem naturalText_mem_spellings (n : Nat) : naturalText n ∈ spellings n := by
  simp [spellings]

theorem twoDigits_mem_spellings (n : Nat) : twoDigits n ∈ spellings n := by
  simp [spellings]

theorem spelling_ne_nil {n : Nat} {digits : Text} (h : digits ∈ spellings n) : digits ≠ [] := by
  rcases List.mem_pair.mp h with rfl | rfl
  · exact naturalText_ne_nil n
  · unfold twoDigits
    split
    · exact List.cons_ne_nil _ _
    · exact naturalText_ne_nil n

theorem isDigit_of_mem_spelling {n : Nat} {digits : Text} (h : digits ∈ spellings n) {c : Char}
    (mem : c ∈ digits) : c.isDigit = true := by
  rcases List.mem_pair.mp h with rfl | rfl
  · exact isDigit_of_mem_naturalText mem
  · unfold twoDigits at mem
    split at mem
    · rcases List.mem_cons.mp mem with rfl | mem
      · decide
      · exact isDigit_of_mem_naturalText mem
    · exact isDigit_of_mem_naturalText mem

theorem length_spelling_le {n : Nat} (h : n < 100) {digits : Text} (spelled : digits ∈ spellings n) :
    digits.length ≤ 2 := by
  have short : (naturalText n).length ≤ 2 := (length_naturalText_le_iff (by decide)).mpr h
  rcases List.mem_pair.mp spelled with rfl | rfl
  · exact short
  · unfold twoDigits
    split
    · rename_i small
      rw [naturalText, Nat.toDigits_of_lt_base small]
      exact Nat.le_refl 2
    · exact short

namespace LayoutPart

/-- The numbers that may stand in a field of at most two digits. -/
def values : LayoutPart → List Nat
  | month => List.range' 1 12
  | day => List.range' 1 31
  | hour => List.range 24
  | minute | second => List.range 60
  | year | space | mark _ => []

theorem lt_of_mem_values {part : LayoutPart} {n : Nat} (h : n ∈ part.values) : n < 100 := by
  cases part with
  | year | space | mark => cases h
  | month | day =>
    rw [values, List.mem_range'_1] at h
    omega
  | hour | minute | second =>
    rw [values, List.mem_range] at h
    omega

theorem width?_year (t : Text) : year.width? t =
    if (t.take 4).length = 4 && (t.take 4).all isDecimal then some 4 else none := rfl

theorem width?_space (t : Text) : space.width? t =
    if (t.takeWhile isSpace).length = 0 then none else some (t.takeWhile isSpace).length := rfl

theorem width?_mark (c : Char) (t : Text) : (mark c).width? t =
    if t.head? = some c then some 1 else none := rfl

/-- A field of at most two digits looks no further. -/
theorem width?_take_two {part : LayoutPart} (h : part.values ≠ []) (t : Text) :
    part.width? (t.take 2) = part.width? t := by
  rcases t with _ | ⟨a, _ | ⟨b, rest⟩⟩
  · rfl
  · rfl
  · cases part with
    | year | space | mark => exact absurd rfl h
    | hour | minute | second => rfl
    | month | day =>
      simp only [width?, List.take]
      grind

/-- A field takes exactly the digits it is written with. -/
theorem width?_spelling {part : LayoutPart} {n : Nat} (known : n ∈ part.values) {digits : Text}
    (spelled : digits ∈ spellings n) {rest : Text} (ends : ∀ c ∈ rest.head?, c ∈ "/ :".toList) :
    part.width? (digits ++ rest) = some digits.length ∧ digitsValue digits = n := by
  -- Two characters decide, so that all spellings can be tried with all that may come next.
  have all : ∀ part ∈ [month, day, hour, minute, second], ∀ n ∈ part.values,
      ∀ digits ∈ spellings n, ∀ ending ∈ [[], ['/'], [' '], [':']],
        part.width? (digits ++ ending) = some digits.length ∧ digitsValue digits = n := by
    decide
  have filled : part.values ≠ [] := List.ne_nil_of_mem known
  have field : part ∈ [month, day, hour, minute, second] := by
    cases part <;> first | decide | exact absurd rfl filled
  have ending : rest.take 1 ∈ [[], ['/'], [' '], [':']] := by
    cases rest with
    | nil => decide
    | cons c rest => simpa using ends c rfl
  have same : (digits ++ rest.take 1).take 2 = (digits ++ rest).take 2 := by
    have nonempty := List.length_pos_iff.mpr (spelling_ne_nil spelled)
    rw [List.take_append, List.take_append, List.take_take]
    congr 2
    omega
  have found := all part field n known digits spelled _ ending
  rwa [← width?_take_two filled, same, width?_take_two filled] at found

end LayoutPart

/-! ## One part and the rest -/

namespace Layout

open LayoutPart

variable {layout : Layout} {f : LayoutFields} {rest : Text}

theorem fields?_cons (part : LayoutPart) (layout : Layout) (f : LayoutFields) (t : Text) :
    fields? (part :: layout) f t = (part.width? t).bind fun width =>
      fields? layout (part.store (frontValue width t) f) (t.drop width) := rfl

theorem fields?_front {part : LayoutPart} {front : Text}
    (h : part.width? (front ++ rest) = some front.length) :
    fields? (part :: layout) f (front ++ rest) =
      fields? layout (part.store (digitsValue front) f) rest := by
  rw [fields?_cons, h, Option.bind_some, frontValue, List.take_left, List.drop_left]

theorem fields?_number {part : LayoutPart} {n : Nat} (known : n ∈ part.values) {digits : Text}
    (spelled : digits ∈ spellings n) (ends : ∀ c ∈ rest.head?, c ∈ "/ :".toList) :
    fields? (part :: layout) f (digits ++ rest) = fields? layout (part.store n f) rest := by
  obtain ⟨width, value⟩ := width?_spelling known spelled ends
  rw [fields?_front width, value]

theorem fields?_year {n : Nat} (first : 1000 ≤ n) (last : n ≤ lastYear) :
    fields? (year :: layout) f (naturalText n ++ rest) = fields? layout { f with year := n } rest := by
  have above : ¬ (naturalText n).length ≤ 3 := by
    rw [length_naturalText_le_iff (by decide)]
    exact Nat.not_lt.mpr first
  have below : (naturalText n).length ≤ 4 := by
    rw [length_naturalText_le_iff (by decide)]
    exact Nat.lt_of_le_of_lt last (by decide)
  have four : (naturalText n).length = 4 := by omega
  have digits : ∀ c ∈ naturalText n, isDecimal c = true := fun c => isDecimal_of_mem_naturalText
  have width : year.width? (naturalText n ++ rest) = some (naturalText n).length := by
    rw [width?_year, List.take_left' four, four]
    simpa using digits
  rw [fields?_front width, digitsValue_naturalText]
  rfl

theorem fields?_mark (c : Char) : fields? (mark c :: layout) f (c :: rest) = fields? layout f rest := by
  simp [fields?_cons, width?_mark, store]

theorem fields?_space {n : Nat} {digits : Text} (spelled : digits ∈ spellings n) :
    fields? (space :: layout) f (' ' :: (digits ++ rest)) = fields? layout f (digits ++ rest) := by
  have blank : isSpace ' ' = true := by decide
  have stops : (digits ++ rest).takeWhile isSpace = [] := by
    cases digits with
    | nil => exact absurd rfl (spelling_ne_nil spelled)
    | cons d digits =>
      simp [isSpace_of_isDigit (isDigit_of_mem_spelling spelled List.mem_cons_self)]
  simp [fields?_cons, width?_space, store, blank, stops]

theorem fields?_last {part : LayoutPart} {n : Nat} (known : n ∈ part.values) {digits : Text}
    (spelled : digits ∈ spellings n) : fields? [part] f digits = some (part.store n f) := by
  have read := @fields?_number [] f [] part n known digits spelled (by simp)
  rwa [List.append_nil] at read

end Layout

/-! ## Marks -/

def isMark (c : Char) : Bool := !isDecimal c && !isSpace c

theorem filter_isMark_eq_nil {t : Text} (h : ∀ c ∈ t, isDecimal c = true ∨ isSpace c = true) :
    t.filter isMark = [] := by
  rw [List.filter_eq_nil_iff]
  intro c mem
  rcases h c mem with digit | space
  · simp [isMark, digit]
  · simp [isMark, space]

theorem filter_isMark_digits {digits : Text} (h : ∀ c ∈ digits, c.isDigit = true) :
    digits.filter isMark = [] :=
  filter_isMark_eq_nil fun c mem => .inl (isDecimal_of_isDigit (h c mem))

namespace LayoutPart

theorem isDecimal_of_isAmong {low high c : Char} (h : isAmong low high c = true)
    (digits : '0' ≤ low ∧ high ≤ '9') : isDecimal c = true := by
  apply isDecimal_of_isDigit
  simp only [isAmong, Bool.and_eq_true, decide_eq_true_eq] at h
  simp only [Char.isDigit, Bool.and_eq_true, decide_eq_true_eq]
  exact ⟨UInt32.le_trans digits.1 h.1, UInt32.le_trans h.2 digits.2⟩

/-- The mark that a part asks for, if it is one. -/
def marks : LayoutPart → Text
  | mark c => [c]
  | _ => []

/-- A field of at most two digits takes digits, and the space before a day. -/
theorem take_width?_field {part : LayoutPart} (field : part.values ≠ []) {t : Text} {width : Nat}
    (h : part.width? t = some width) : ∀ c ∈ t.take width, isDecimal c = true ∨ c = ' ' := by
  -- The characters that stand for themselves in the patterns, and the ranges that they use.
  have zero : isDecimal '0' = true := by decide
  have one : isDecimal '1' = true := by decide
  have two : isDecimal '2' = true := by decide
  have three : isDecimal '3' = true := by decide
  have six : isDecimal '6' = true := by decide
  have among {low high c : Char} (digits : '0' ≤ low ∧ high ≤ '9' := by decide)
      (h : isAmong low high c = true) : isDecimal c = true := isDecimal_of_isAmong h digits
  cases part with
  | year | space | mark => exact absurd rfl field
  | month | day | hour | minute | second =>
    simp only [width?] at h
    grind

/-- What a part takes holds its mark and no other. -/
theorem filter_take_width? {part : LayoutPart} {t : Text} {width : Nat}
    (h : part.width? t = some width) (known : part.marks.all isMark = true) :
    (t.take width).filter isMark = part.marks := by
  cases part with
  | year =>
    rw [width?_year] at h
    split at h <;> cases h
    rename_i four
    rw [Bool.and_eq_true, List.all_eq_true] at four
    exact filter_isMark_eq_nil fun c mem => .inl (four.2 c mem)
  | month | day | hour | minute | second =>
    apply filter_isMark_eq_nil
    intro c mem
    rcases take_width?_field (by decide) h c mem with digit | rfl
    · exact .inl digit
    · exact .inr (by decide)
  | space =>
    rw [width?_space] at h
    split at h <;> cases h
    have taken : t.take (t.takeWhile isSpace).length = t.takeWhile isSpace :=
      (List.prefix_iff_eq_take.mp (List.takeWhile_prefix isSpace)).symm
    rw [taken]
    exact filter_isMark_eq_nil fun c mem => .inr (List.all_eq_true.mp List.all_takeWhile c mem)
  | mark c =>
    rw [width?_mark] at h
    split at h <;> cases h
    rename_i front
    obtain ⟨rest, rfl⟩ := List.head?_eq_some_iff.mp front
    simpa [marks] using known

end LayoutPart

namespace Layout

open LayoutPart

def marks (layout : Layout) : Text := layout.flatMap LayoutPart.marks

/-- **The marks of a text tell which layouts may account for it.** -/
theorem marks_eq_of_fields? {layout : Layout} {f g : LayoutFields} {t : Text}
    (h : layout.fields? f t = some g) (known : layout.marks.all isMark = true) :
    t.filter isMark = layout.marks := by
  induction layout generalizing f t with
  | nil =>
    cases t with
    | nil => rfl
    | cons c t => cases h
  | cons part layout ih =>
    obtain ⟨width, taken, h⟩ := Option.bind_eq_some_iff.mp h
    rw [marks, List.flatMap_cons, List.all_append, Bool.and_eq_true] at known
    rw [marks, List.flatMap_cons, ← filter_take_width? taken known.1]
    conv_lhs => rw [← List.take_append_drop width t]
    rw [List.filter_append, ih h known.2]
    rfl

/-- A layout with a year accounts only for texts with four digits in a row. -/
theorem not_hasRunsUpTo_of_fields? {layout : Layout} {f g : LayoutFields} {t : Text}
    (h : layout.fields? f t = some g) (dated : year ∈ layout) : ¬ HasRunsUpTo 3 t := by
  induction layout generalizing f t with
  | nil => cases dated
  | cons part layout ih =>
    obtain ⟨width, taken, h⟩ := Option.bind_eq_some_iff.mp h
    rcases List.mem_cons.mp dated with rfl | later
    · intro short
      rw [width?_year] at taken
      split at taken
      · rename_i four
        rw [Bool.and_eq_true, decide_eq_true_eq, List.all_eq_true] at four
        have run := short (t.take 4) (List.take_prefix 4 t).isInfix four.2
        omega
      · cases taken
    · intro short
      apply ih h later
      intro digits part
      exact short digits (part.trans (List.drop_suffix width t).isInfix)

theorem read?_eq_none_of_marks {layout : Layout} {t : Text} (known : layout.marks.all isMark = true)
    (other : t.filter isMark ≠ layout.marks) : layout.read? t = none := by
  rw [read?, Option.bind_eq_none_iff]
  intro g read
  exact absurd (marks_eq_of_fields? read known) other

theorem read?_eq_none_of_runs {layout : Layout} {t : Text} (dated : year ∈ layout)
    (short : HasRunsUpTo 3 t) : layout.read? t = none := by
  rw [read?, Option.bind_eq_none_iff]
  intro g read
  exact absurd short (not_hasRunsUpTo_of_fields? read dated)

end Layout
end MacroShell
