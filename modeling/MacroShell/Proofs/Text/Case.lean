import MacroShell.Proofs.Unicode.Classes
import MacroShell.Text.Case

/-!
# Small letters

A text in small letters is as empty as the text itself. Apart from capital sigma, characters are
mapped one by one; space is kept, and marks such as points and arrows come from themselves alone.
-/

namespace MacroShell

theorem smallForm_ne_nil (c : Char) : smallForm c ≠ [] := by
  unfold smallForm mapCase
  split
  · rename_i codes found
    have filled : ∀ e ∈ smallExpansions, e.2 ≠ [] := by decide
    obtain ⟨before, after, split, _⟩ := List.lookup_eq_some_iff.mp found
    simpa using filled (c.toNat, codes) (by simp [split])
  · simp

theorem CaseRun.image?_eq_some {runs : List CaseRun} {n m : Nat} (h : image? runs n = some m) :
    ∃ r ∈ runs, r.first ≤ n ∧ n ≤ r.last ∧ m = r.target + (n - r.first) := by
  induction runs with
  | nil => cases h
  | cons r runs ih =>
    rw [image?] at h
    split at h
    · cases h
    · split at h
      · rename_i first held
        rw [Bool.and_eq_true, decide_eq_true_eq] at held
        exact ⟨r, List.mem_cons_self, by omega, held.1, (Option.some.inj h).symm⟩
      · obtain ⟨run, mem, image⟩ := ih h
        exact ⟨run, List.mem_cons_of_mem r mem, image⟩

theorem ofNat_ne {n : Nat} {d : Char} (h : d.toNat < n) (mark : d ≠ '\x00') :
    Char.ofNat n ≠ d := by
  intro same
  by_cases valid : n.isValidChar
  · have code : (Char.ofNat n).toNat = n := by
      rw [Char.ofNat, dif_pos valid]
      rfl
    rw [← same, code] at h
    exact Nat.lt_irrefl n h
  · rw [Char.ofNat, dif_neg valid] at same
    exact mark same.symm

set_option maxRecDepth 4000 in
/-- All small forms of other characters start at `a`, so that the marks before it come from
themselves alone. -/
theorem notMem_smallForm {c d : Char} (low : d.toNat < 'a'.toNat) (mark : d ≠ '\x00') (h : c ≠ d) :
    d ∉ smallForm c := by
  unfold smallForm mapCase
  split
  · rename_i codes found
    have above : ∀ e ∈ smallExpansions, ∀ n ∈ e.2, 'a'.toNat ≤ n := by decide
    obtain ⟨before, after, split, _⟩ := List.lookup_eq_some_iff.mp found
    intro mem
    obtain ⟨n, code, same⟩ := List.mem_map.mp mem
    have high : 'a'.toNat ≤ n := above (c.toNat, codes) (by simp [split]) n code
    exact ofNat_ne (Nat.lt_of_lt_of_le low high) mark same
  · rw [List.mem_singleton]
    cases image : CaseRun.image? smallRuns c.toNat with
    | none => exact h.symm
    | some n =>
      have above : ∀ r ∈ smallRuns, 'a'.toNat ≤ r.target := by decide
      obtain ⟨r, mem, -, -, rfl⟩ := CaseRun.image?_eq_some image
      have high : d.toNat < r.target := Nat.lt_of_lt_of_le low (above r mem)
      exact (ofNat_ne (Nat.lt_add_right _ high) mark).symm

/-! ## Letters past the common ones

The first 128 code points have the small forms that `Char.toLower` gives them. -/

theorem toLower_of_le {c : Char} (h : 128 ≤ c.toNat) : c.toLower = c := by
  have past : ¬ c.val ≤ 'Z'.val := by
    rw [UInt32.le_iff_toNat_le]
    have last : 'Z'.val.toNat = 90 := rfl
    have code : c.val.toNat = c.toNat := rfl
    omega
  exact dif_neg fun inside => past inside.2

/-- What holds of the first 128 code points is checked one by one. -/
theorem common_cases {p : Char → Prop} (common : ∀ n < 128, p (Char.ofNat n)) {c : Char}
    (h : c.toNat < 128) : p c := by
  rw [← Char.ofNat_toNat c]
  exact common c.toNat h

theorem toLower_cases {p : Char → Prop} (common : ∀ n < 128, p (Char.ofNat n))
    (other : ∀ c : Char, c.toLower = c → p c) (c : Char) : p c := by
  by_cases low : c.toNat < 128
  · exact common_cases common low
  · exact other c (toLower_of_le (by omega))

/-- The first 128 characters have small forms of one character, which are small already. -/
theorem common_smallForm : ∀ n < 128, smallForm (Char.ofNat n) = [(Char.ofNat n).toLower] ∧
    (Char.ofNat n).toLower.toLower = (Char.ofNat n).toLower := by
  decide

theorem toLower_toLower (c : Char) : c.toLower.toLower = c.toLower := by
  apply toLower_cases (p := fun c => c.toLower.toLower = c.toLower)
    fun n low => (common_smallForm n low).2
  intro c same
  rw [same, same]

theorem smallForm_of_lt {c : Char} : c.toNat < 128 → smallForm c = [c.toLower] :=
  common_cases (p := fun c => smallForm c = [c.toLower]) fun n low => (common_smallForm n low).1

/-- Whether small forms stay clear of the ranges: past the first 128 code points no letter that has
another small form is in them, and nothing that its small form consists of. -/
def CodeRanges.isUntouched (ranges : CodeRanges) : Bool :=
  !ranges.contains 0 &&
  (smallExpansions.all fun e => !ranges.contains e.1 && e.2.all (!ranges.contains ·)) &&
  smallRuns.all fun r => r.last < 128 ||
    !ranges.meets r.first r.last && !ranges.meets r.target (r.target + (r.last - r.first))

theorem contains_ofNat {ranges : CodeRanges} {n : Nat} (zero : ranges.contains 0 = false)
    (h : ranges.contains n = false) : ranges.contains (Char.ofNat n).toNat = false := by
  by_cases valid : n.isValidChar
  · have code : (Char.ofNat n).toNat = n := by
      rw [Char.ofNat, dif_pos valid]
      rfl
    rwa [code]
  · rw [Char.ofNat, dif_neg valid]
    exact zero

theorem smallForm_cases {ranges : CodeRanges} (clear : ranges.isUntouched = true) (c : Char) :
    smallForm c = [c.toLower] ∨
      ranges.contains c.toNat = false ∧ ∀ d ∈ smallForm c, ranges.contains d.toNat = false := by
  by_cases low : c.toNat < 128
  · exact Or.inl (smallForm_of_lt low)
  · have same : c.toLower = c := toLower_of_le (by omega)
    simp only [CodeRanges.isUntouched, Bool.and_eq_true, List.all_eq_true, Bool.not_eq_true',
      Bool.or_eq_true, decide_eq_true_eq] at clear
    obtain ⟨⟨zero, expansions⟩, runs⟩ := clear
    unfold smallForm mapCase
    split
    · rename_i codes found
      obtain ⟨before, after, split, -⟩ := List.lookup_eq_some_iff.mp found
      obtain ⟨outside, others⟩ := expansions (c.toNat, codes) (by simp [split])
      refine Or.inr ⟨outside, ?_⟩
      intro d mem
      obtain ⟨n, code, rfl⟩ := List.mem_map.mp mem
      exact contains_ofNat zero (others n code)
    · cases image : CaseRun.image? smallRuns c.toNat with
      | none => exact Or.inl (by rw [same]; rfl)
      | some m =>
        obtain ⟨r, mem, first, last, rfl⟩ := CaseRun.image?_eq_some image
        obtain early | ⟨source, target⟩ := runs r mem
        · omega
        have avoid {low high n : Nat} (apart : ranges.meets low high = false) (above : low ≤ n)
            (below : n ≤ high) : ranges.contains n = false := by
          rw [Bool.eq_false_iff]
          intro inside
          rw [CodeRanges.meets_of_contains inside above below] at apart
          cases apart
        refine Or.inr ⟨avoid source first last, ?_⟩
        intro d mem
        obtain rfl := List.mem_singleton.mp mem
        exact contains_ofNat zero (avoid target (by omega) (by omega))

set_option maxRecDepth 4000 in
theorem smallForm_of_isSpace {c : Char} (h : isSpace c = true) : smallForm c = [c] := by
  have kept : ∀ n ∈ spaceRanges.codes,
      smallExpansions.lookup n = none ∧ CaseRun.image? smallRuns n = none := by decide
  obtain ⟨single, same⟩ := kept c.toNat (CodeRanges.mem_codes_of_contains h)
  rw [smallForm, mapCase, single, same]
  rfl

namespace Text

theorem lowerAfter_eq_flatMap {t : Text} (h : 'Σ' ∉ t) (before : Text) :
    lowerAfter before t = t.flatMap smallForm := by
  induction t generalizing before with
  | nil => rfl
  | cons c t ih =>
    have other : c ≠ 'Σ' := (List.ne_of_not_mem_cons h).symm
    rw [lowerAfter, if_neg other, ih (List.not_mem_of_not_mem_cons h), List.flatMap_cons]

/-- A text without capital sigma is put into small letters character by character. -/
theorem lower_eq_flatMap {t : Text} (h : 'Σ' ∉ t) : t.lower = t.flatMap smallForm :=
  lowerAfter_eq_flatMap h []

theorem lower_eq_self {t : Text} (h : ∀ c ∈ t, smallForm c = [c]) : t.lower = t := by
  have noSigma : 'Σ' ∉ t := fun mem => absurd (h 'Σ' mem) (by decide)
  rw [lower_eq_flatMap noSigma]
  induction t with
  | nil => rfl
  | cons c t ih =>
    obtain ⟨same, others⟩ := List.forall_mem_cons.mp h
    rw [List.flatMap_cons, same, ih others (List.not_mem_of_not_mem_cons noSigma)]
    rfl

/-- A capital sigma leaves one of the small ones. -/
theorem mem_lowerAfter_of_sigma {t : Text} (h : 'Σ' ∈ t) (before : Text) :
    'σ' ∈ lowerAfter before t ∨ 'ς' ∈ lowerAfter before t := by
  induction t generalizing before with
  | nil => cases h
  | cons c t ih =>
    rw [lowerAfter, List.mem_append, List.mem_append]
    rcases List.mem_cons.mp h with rfl | later
    · rw [if_pos rfl, smallSigma]
      split <;> simp
    · exact (ih later (c :: before)).imp Or.inr Or.inr

/-- What stands before the first point, in small letters. -/
theorem lower_takeWhile {t : Text} (h : 'Σ' ∉ t) :
    lower (t.takeWhile (· != '.')) = t.lower.takeWhile (· != '.') := by
  have noSigma : 'Σ' ∉ t.takeWhile (· != '.') := fun mem => h (List.takeWhile_subset _ mem)
  rw [lower_eq_flatMap h, lower_eq_flatMap noSigma]
  clear h noSigma
  induction t with
  | nil => rfl
  | cons c t ih =>
    by_cases point : c = '.'
    · subst point
      have small : smallForm '.' = ['.'] := by decide
      simp [small]
    · have kept : ∀ d ∈ smallForm c, (d != '.') = true := by
        intro d mem
        rw [bne_iff_ne]
        rintro rfl
        exact notMem_smallForm (by decide) (by decide) point mem
      have first : (c != '.') = true := bne_iff_ne.mpr point
      rw [List.takeWhile_cons, if_pos first, List.flatMap_cons, List.flatMap_cons,
        List.takeWhile_append_of_pos kept, ih]

theorem mem_lowerAfter {c : Char} (small : smallForm c = [c]) (h : c ≠ 'Σ') {t : Text}
    (hc : c ∈ t) : ∀ before, c ∈ lowerAfter before t := by
  induction t with
  | nil => cases hc
  | cons d rest ih =>
    intro before
    rw [lowerAfter, List.mem_append]
    rcases List.mem_cons.mp hc with rfl | later
    · exact Or.inl (by simp [h, small])
    · exact Or.inr (ih later (d :: before))

theorem mem_lower {c : Char} (small : smallForm c = [c]) (h : c ≠ 'Σ') {t : Text} (hc : c ∈ t) :
    c ∈ t.lower :=
  mem_lowerAfter small h hc []

theorem length_lowerAfter (before t : Text) :
    (lowerAfter before t).length = (t.flatMap smallForm).length := by
  induction t generalizing before with
  | nil => rfl
  | cons c t ih =>
    have sigma : (smallForm 'Σ').length = 1 := by decide
    have here : (if c = 'Σ' then [smallSigma before t] else smallForm c).length =
        (smallForm c).length := by
      split
      · rename_i same
        rw [same, sigma, List.length_singleton]
      · rfl
    rw [lowerAfter, List.length_append, List.flatMap_cons, List.length_append, here, ih]

/-- A text and a longer one that starts with it differ in more than letter case. -/
theorem lower_append_ne {u v : Text} (h : v ≠ []) : lower (u ++ v) ≠ lower u := by
  intro same
  have length := congrArg List.length same
  rw [lower, lower, length_lowerAfter, length_lowerAfter, List.flatMap_append,
    List.length_append] at length
  cases v with
  | nil => exact h rfl
  | cons c v =>
    have filled : 0 < (smallForm c).length := List.length_pos_iff.mpr (smallForm_ne_nil c)
    rw [List.flatMap_cons, List.length_append] at length
    omega

theorem lower_eq_nil_iff {t : Text} : t.lower = [] ↔ t = [] := by
  constructor
  · intro nil
    cases t with
    | nil => rfl
    | cons c rest =>
      rw [lower, lowerAfter, List.append_eq_nil_iff] at nil
      split at nil
      · cases nil.1
      · exact absurd nil.1 (smallForm_ne_nil c)
  · rintro rfl
    rfl

end Text
end MacroShell
