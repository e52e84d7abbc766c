import Mathlib.Algebra.GroupWithZero.Nat
import MacroShell.Proofs.Calendar.Duration

/-!
# The groups in a text

A text that is not an integer is read by adding up its groups: every maximal run of digits with a
unit right behind it, wherever it stands and in whatever letter case the unit is.
-/

namespace MacroShell
namespace Duration

/-! ## Digits and units under letter case -/

def unitRanges : CodeRanges := [(0x64, 0x64), (0x68, 0x68), (0x6D, 0x6D), (0x73, 0x73)]

theorem unitSize?_eq_none {c : Char} (h : unitRanges.contains c.toNat = false) :
    unitSize? c = none := by
  unfold unitSize?
  split
  · cases h
  · cases h
  · cases h
  · cases h
  · rfl

/-- A character that is neither a digit nor a unit in small letters. -/
def IsPlain (c : Char) : Prop := isDecimal c = false ∧ unitSize? c = none

instance (c : Char) : Decidable (IsPlain c) := inferInstanceAs (Decidable (_ ∧ _))

set_option maxRecDepth 4000 in
/-- Apart from common letters, whose small forms are known, nothing plays a part in a group that
changes with letter case. -/
theorem smallForm_plain (c : Char) :
    smallForm c = [c.toLower] ∨ IsPlain c.toLower ∧ ∀ d ∈ smallForm c, IsPlain d := by
  have noDigits : decimalRanges.isUntouched = true := by decide
  have noUnits : unitRanges.isUntouched = true := by decide
  by_cases low : c.toNat < 128
  · exact Or.inl (smallForm_of_lt low)
  · rcases smallForm_cases noDigits c with single | ⟨digit, digits⟩
    · exact Or.inl single
    · rcases smallForm_cases noUnits c with single | ⟨unit, units⟩
      · exact Or.inl single
      · rw [toLower_of_le (by omega)]
        refine Or.inr ⟨⟨digit, unitSize?_eq_none unit⟩, ?_⟩
        intro d mem
        exact ⟨digits d mem, unitSize?_eq_none (units d mem)⟩

/-- A character that integer literals are made of. -/
def IsFigure (c : Char) : Prop := isDecimal c = true ∨ c = '-' ∨ c = '+'

instance (c : Char) : Decidable (IsFigure c) := inferInstanceAs (Decidable (_ ∨ _))

/-- What the small forms of the first 128 characters have in common with them. -/
theorem common_toLower : ∀ n < 128,
    isDecimal (Char.ofNat n).toLower = isDecimal (Char.ofNat n) ∧
    isSpace (Char.ofNat n).toLower = isSpace (Char.ofNat n) ∧
    isUnit (Char.ofNat n) = (unitSize? (Char.ofNat n).toLower).isSome ∧
    (IsFigure (Char.ofNat n) ∨ IsFigure (Char.ofNat n).toLower →
      (Char.ofNat n).toLower = Char.ofNat n) := by
  decide

theorem isDecimal_toLower (c : Char) : isDecimal c.toLower = isDecimal c := by
  apply toLower_cases (p := fun c => isDecimal c.toLower = isDecimal c)
    fun n low => (common_toLower n low).1
  intro c same
  rw [same]

theorem isSpace_toLower (c : Char) : isSpace c.toLower = isSpace c := by
  apply toLower_cases (p := fun c => isSpace c.toLower = isSpace c)
    fun n low => (common_toLower n low).2.1
  intro c same
  rw [same]

theorem isUnit_eq (c : Char) : isUnit c = (unitSize? c.toLower).isSome := by
  by_cases low : c.toNat < 128
  · exact common_cases (p := fun c => isUnit c = (unitSize? c.toLower).isSome)
      (fun n low => (common_toLower n low).2.2.1) low
  · have noUnit : unitRanges.contains c.toNat = false := by
      rw [Bool.eq_false_iff]
      intro inside
      have common : ∀ n ∈ unitRanges.codes, n < 128 := by decide
      exact low (common _ (CodeRanges.mem_codes_of_contains inside))
    rw [toLower_of_le (by omega), unitSize?_eq_none noUnit, Option.isSome_none, Bool.eq_false_iff]
    intro unit
    have common : ['s', 'm', 'h', 'd', 'S', 'M', 'H', 'D'].all (·.toNat < 128) = true := by decide
    exact low (of_decide_eq_true (List.all_eq_true.mp common c (of_decide_eq_true unit)))

theorem isDecimal_of_isUnit {c : Char} (h : isUnit c = true) : isDecimal c = false := by
  have letters : ['s', 'm', 'h', 'd', 'S', 'M', 'H', 'D'].all (!isDecimal ·) = true := by decide
  simpa using List.all_eq_true.mp letters c (of_decide_eq_true h)

theorem isPlain_of_isSpace {c : Char} (h : isSpace c = true) : IsPlain c := by
  have apart : ∀ n ∈ spaceRanges.codes,
      decimalRanges.contains n = false ∧ unitRanges.contains n = false := by decide
  obtain ⟨digit, unit⟩ := apart c.toNat (CodeRanges.mem_codes_of_contains h)
  exact ⟨digit, unitSize?_eq_none unit⟩

/-! ## Reading in any letter case -/

theorem sumGroups?_plain_append {u : Text} (h : ∀ c ∈ u, IsPlain c) (nonempty : u ≠ []) (run : Run)
    (rest : Text) : sumGroups? run (u ++ rest) = sumGroups? .none rest := by
  induction u generalizing run with
  | nil => exact absurd rfl nonempty
  | cons c u ih =>
    obtain ⟨⟨digit, unit⟩, others⟩ := List.forall_mem_cons.mp h
    rw [List.cons_append, sumGroups?, digit, unit]
    by_cases last : u = []
    · rw [last]
      rfl
    · exact ih others last .none

theorem sumGroups?_append_plain {v : Text} (h : ∀ c ∈ v, IsPlain c) (run : Run) (u : Text) :
    sumGroups? run (u ++ v) = sumGroups? run u := by
  induction u generalizing run with
  | nil =>
    by_cases nil : v = []
    · rw [nil, List.append_nil]
    · have last := sumGroups?_plain_append h nil run []
      rwa [List.append_nil] at last
  | cons c u ih =>
    rw [List.cons_append, sumGroups?, sumGroups?]
    simp only [ih]

/-- The scan does not tell small letters from common letters made small. -/
theorem sumGroups?_lowerAfter (before t : Text) (run : Run) :
    sumGroups? run (Text.lowerAfter before t) = sumGroups? run (t.map Char.toLower) := by
  induction t generalizing before run with
  | nil => rfl
  | cons c t ih =>
    rw [Text.lowerAfter, List.map_cons]
    by_cases sigma : c = 'Σ'
    · have plain : IsPlain (smallSigma before t) := by
        unfold smallSigma
        split <;> decide
      subst sigma
      have capital : IsPlain 'Σ' := by decide
      rw [if_pos rfl, sumGroups?_plain_append (by simpa using plain) (by simp), ih]
      exact (sumGroups?_plain_append (u := ['Σ']) (by simpa using capital) (by simp) run _).symm
    · rw [if_neg sigma]
      rcases smallForm_plain c with single | ⟨plain, plains⟩
      · rw [single, List.singleton_append, sumGroups?, sumGroups?]
        simp only [ih]
      · rw [sumGroups?_plain_append plains (smallForm_ne_nil c), ih]
        exact (sumGroups?_plain_append (u := [c.toLower]) (by simpa using plain) (by simp) run _).symm

theorem sumGroups?_trim (t : Text) :
    sumGroups? .none (t.trim.map Char.toLower) = sumGroups? .none (t.map Char.toLower) := by
  obtain ⟨u, v, front, back, split⟩ := t.exists_trim
  have plain {w : Text} (blank : w.isBlank = true) : ∀ c ∈ w.map Char.toLower, IsPlain c := by
    intro c mem
    obtain ⟨d, inside, rfl⟩ := List.mem_map.mp mem
    apply isPlain_of_isSpace
    rw [isSpace_toLower]
    exact Text.isBlank_iff.mp blank d inside
  conv_rhs => rw [split]
  rw [List.map_append, List.map_append, sumGroups?_append_plain (plain back)]
  by_cases nil : u = []
  · rw [nil]
    rfl
  · rw [sumGroups?_plain_append (plain front) (by simpa using nil)]

theorem trim_map_toLower (t : Text) :
    Text.trim (t.map Char.toLower) = t.trim.map Char.toLower := by
  have same : isSpace ∘ Char.toLower = isSpace := funext isSpace_toLower
  simp only [Text.trim, Text.trimLeft, Text.trimRight, List.dropWhile_map, ← List.map_reverse, same]

theorem toLower_of_isFigure {c : Char} : IsFigure c → c.toLower = c :=
  toLower_cases (p := fun c => IsFigure c → c.toLower = c)
    (fun n low figure => (common_toLower n low).2.2.2 (Or.inl figure)) (fun _ same _ => same) c

theorem toLower_eq_self {c : Char} : IsFigure c.toLower → c.toLower = c :=
  toLower_cases (p := fun c => IsFigure c.toLower → c.toLower = c)
    (fun n low figure => (common_toLower n low).2.2.2 (Or.inr figure)) (fun _ same _ => same) c

theorem smallForm_of_isFigure {c : Char} (h : IsFigure c) : smallForm c = [c] := by
  rcases h with digit | rfl | rfl
  · have same := toLower_of_isFigure (Or.inl digit)
    rcases smallForm_plain c with single | ⟨⟨noDigit, -⟩, -⟩
    · rw [single, same]
    · rw [same, digit] at noDigit
      cases noDigit
  · decide
  · decide

theorem smallForm_eq_self {c : Char} (h : ∀ d ∈ smallForm c, IsFigure d) : smallForm c = [c] := by
  rcases smallForm_plain c with single | ⟨-, plain⟩
  · rw [single, toLower_eq_self (h _ (by simp [single]))]
  · obtain ⟨d, others, form⟩ := List.exists_cons_of_ne_nil (smallForm_ne_nil c)
    have mem : d ∈ smallForm c := by simp [form]
    -- Signs come from themselves alone.
    have sign (low : d.toNat < 'a'.toNat) (mark : d ≠ '\x00') (kept : smallForm d = [d]) :
        smallForm c = [c] := by
      by_cases same : c = d
      · rw [same, kept]
      · exact absurd mem (notMem_smallForm low mark same)
    rcases h d mem with digit | rfl | rfl
    · rw [(plain d mem).1] at digit
      cases digit
    · exact sign (by decide) (by decide) (by decide)
    · exact sign (by decide) (by decide) (by decide)

theorem lower_of_isIntegerLiteral {t : Text} (h : isIntegerLiteral t = true) : t.lower = t :=
  Text.lower_eq_self fun c mem => smallForm_of_isFigure (of_isIntegerLiteral h c mem)

theorem isIntegerLiteral_lower (t : Text) : isIntegerLiteral t.lower = isIntegerLiteral t := by
  rw [Bool.eq_iff_iff]
  constructor
  · intro literal
    have figures : ∀ c ∈ t.lower, IsFigure c := of_isIntegerLiteral literal
    have noSigma : 'Σ' ∉ t := by
      intro mem
      rcases Text.mem_lowerAfter_of_sigma mem [] with small | small
      · exact absurd (figures _ small) (by decide)
      · exact absurd (figures _ small) (by decide)
    have same : t.lower = t := by
      apply Text.lower_eq_self
      intro c mem
      apply smallForm_eq_self
      intro d part
      apply figures
      rw [Text.lower_eq_flatMap noSigma]
      exact List.mem_flatMap.mpr ⟨c, mem, part⟩
    rwa [same] at literal
  · intro literal
    rwa [lower_of_isIntegerLiteral literal]

theorem map_toLower_of_figures {t : Text} (h : ∀ c ∈ t, IsFigure c) : t.map Char.toLower = t := by
  have same : ∀ c ∈ t, c.toLower = id c := fun c mem => toLower_of_isFigure (h c mem)
  rw [List.map_congr_left same, List.map_id]

theorem isIntegerLiteral_map_toLower (t : Text) :
    isIntegerLiteral (t.map Char.toLower) = isIntegerLiteral t := by
  rw [Bool.eq_iff_iff]
  constructor
  · intro literal
    have figures : ∀ c ∈ t, IsFigure c := by
      intro c mem
      have figure : IsFigure c.toLower := of_isIntegerLiteral literal _ (List.mem_map_of_mem mem)
      rwa [toLower_eq_self figure] at figure
    rwa [map_toLower_of_figures figures] at literal
  · intro literal
    rwa [map_toLower_of_figures (of_isIntegerLiteral literal)]

theorem read?_eq_sumGroups? {t : Text} (h : isIntegerLiteral t.trim = false) :
    read? t = (sumGroups? .none (t.map Char.toLower)).map Int.ofNat := by
  have other : isIntegerLiteral t.trim.lower = false := by rw [isIntegerLiteral_lower, h]
  simp only [read?]
  rw [if_neg (by simp [other]), Text.lower, sumGroups?_lowerAfter, sumGroups?_trim]

/-- Integers are read alike as numbers and as seconds. -/
theorem read?_of_isIntegerLiteral {t : Text} (literal : isIntegerLiteral t.trim = true) :
    read? t = readInteger? t := by
  rw [read?, lower_of_isIntegerLiteral literal, readInteger?]
  simp only [literal, if_true]

theorem read?_of_readInteger? {t : Text} {n : Int} (h : readInteger? t = some n) :
    read? t = some n := by
  rw [read?_of_isIntegerLiteral (isIntegerLiteral_of_readInteger? h), h]

/-- **Letter case does not matter to reading.** -/
theorem read?_map_toLower (t : Text) : read? (t.map Char.toLower) = read? t := by
  cases literal : isIntegerLiteral t.trim with
  | true =>
    have same := map_toLower_of_figures (of_isIntegerLiteral literal)
    simp only [read?, trim_map_toLower, same]
  | false =>
    have twice : (t.map Char.toLower).map Char.toLower = t.map Char.toLower := by
      rw [List.map_map]
      exact List.map_congr_left fun c _ => toLower_toLower c
    have literal' : isIntegerLiteral (Text.trim (t.map Char.toLower)) = false := by
      rw [trim_map_toLower, isIntegerLiteral_map_toLower, literal]
    rw [read?_eq_sumGroups? literal, read?_eq_sumGroups? literal', twice]

/-! ## Groups and their places -/

/-- A group of a text: where its count starts, the count and the unit. -/
structure Group where
  start : Nat
  count : Text
  unit : Char
  deriving DecidableEq

namespace Group

def stop (g : Group) : Nat := g.start + g.count.length

def seconds (g : Group) : Nat := digitsValue g.count * (unitSize? g.unit.toLower).getD 0

/-- Whether a group stands in a text: its count is a maximal run of digits, and right behind it
there is its unit, small or capital. -/
structure IsIn (t : Text) (g : Group) : Prop where
  nonempty : g.count ≠ []
  digits : ∀ c ∈ g.count, isDecimal c = true
  unit : isUnit g.unit = true
  placed : ∃ before after : Text, t = before ++ g.count ++ g.unit :: after ∧
    before.length = g.start ∧ ∀ c ∈ before.getLast?, isDecimal c = false

theorem IsIn.stop_lt {t : Text} {g : Group} (h : g.IsIn t) : g.stop < t.length := by
  obtain ⟨before, after, rfl, start, -⟩ := h.placed
  simp [stop, ← start]

end Group

section
variable {front run before count rest : Text}

/-- Of two maximal runs that end at one place, neither reaches further to the left. -/
theorem extra_eq_nil {extra : Text} (digits : ∀ c ∈ extra ++ run, isDecimal c = true)
    (bound : ∀ c ∈ (before ++ extra).getLast?, isDecimal c = false) : extra = [] := by
  cases last : extra.getLast? with
  | none => exact List.getLast?_eq_none_iff.mp last
  | some c =>
    have digit := digits c (List.mem_append_left run (List.mem_of_getLast? last))
    rw [bound c (List.mem_getLast?_append_of_mem_getLast? last)] at digit
    cases digit

theorem run_unique (same : before ++ count = front ++ run)
    (digits : ∀ c ∈ run, isDecimal c = true) (digits' : ∀ c ∈ count, isDecimal c = true)
    (bound : ∀ c ∈ front.getLast?, isDecimal c = false)
    (bound' : ∀ c ∈ before.getLast?, isDecimal c = false) : before = front ∧ count = run := by
  rcases List.append_eq_append_iff.mp same with ⟨extra, rfl, rfl⟩ | ⟨extra, rfl, rfl⟩
  · rw [extra_eq_nil digits' bound]
    simp
  · rw [extra_eq_nil digits bound']
    simp

namespace Group

/-- A group whose unit stands behind a maximal run of digits is made of that run. -/
theorem isIn_iff_of_stop {c : Char} {g : Group} (digits : ∀ d ∈ run, isDecimal d = true)
    (bound : ∀ d ∈ front.getLast?, isDecimal d = false) (stop : g.stop = (front ++ run).length) :
    g.IsIn (front ++ run ++ c :: rest) ↔
      run ≠ [] ∧ isUnit c = true ∧ g = ⟨front.length, run, c⟩ := by
  obtain ⟨start, count, unit⟩ := g
  constructor
  · rintro ⟨nonempty, digits', known, before, after, split, rfl, bound'⟩
    have lengths : (front ++ run).length = (before ++ count).length := by
      rw [← stop, Group.stop, List.length_append]
    obtain ⟨same, others⟩ := List.append_inj split lengths
    obtain ⟨rfl, rfl⟩ := List.cons.inj others
    obtain ⟨rfl, rfl⟩ := run_unique same.symm digits digits' bound bound'
    exact ⟨nonempty, known, rfl⟩
  · rintro ⟨nonempty, known, same⟩
    cases same
    exact ⟨nonempty, digits, known, front, rest, rfl, rfl, bound⟩

end Group

/-! ## The scan -/

/-- The group that ends with a character behind a maximal run of digits, if there is one. -/
def groupAt (start : Nat) (run : Text) (c : Char) : List Group :=
  if run ≠ [] ∧ isUnit c = true then [⟨start, run, c⟩] else []

theorem nodup_groupAt (start : Nat) (run : Text) (c : Char) : (groupAt start run c).Nodup := by
  unfold groupAt
  split
  · exact List.nodup_cons.mpr ⟨List.not_mem_nil, List.nodup_nil⟩
  · exact List.nodup_nil

theorem groupAt_digit {c : Char} (digit : isDecimal c = true) (start : Nat) (run : Text) :
    groupAt start run c = [] := by
  apply if_neg
  rintro ⟨-, unit⟩
  rw [isDecimal_of_isUnit unit] at digit
  cases digit

theorem mem_groupAt_iff {c : Char} {g : Group} (digits : ∀ d ∈ run, isDecimal d = true)
    (bound : ∀ d ∈ front.getLast?, isDecimal d = false) :
    g ∈ groupAt front.length run c ↔
      g.IsIn (front ++ run ++ c :: rest) ∧ g.stop = (front ++ run).length := by
  have here (stop : g.stop = (front ++ run).length) :=
    @Group.isIn_iff_of_stop front run rest c g digits bound stop
  unfold groupAt
  split
  · rename_i found
    rw [List.mem_singleton]
    constructor
    · rintro rfl
      exact ⟨(here List.length_append.symm).mpr ⟨found.1, found.2, rfl⟩, List.length_append.symm⟩
    · rintro ⟨inside, stop⟩
      exact ((here stop).mp inside).2.2
  · rename_i nothing
    refine iff_of_false List.not_mem_nil ?_
    rintro ⟨inside, stop⟩
    obtain ⟨filled, unit, -⟩ := (here stop).mp inside
    exact nothing ⟨filled, unit⟩

/-- A list of all groups of a text with their units at a place or behind it, each of them once. -/
structure ListsFrom (t : Text) (place : Nat) (groups : List Group) : Prop where
  nodup : groups.Nodup
  mem : ∀ g, g ∈ groups ↔ g.IsIn t ∧ place ≤ g.stop

theorem ListsFrom.nil (t : Text) : ListsFrom t t.length [] where
  nodup := List.nodup_nil
  mem g := by
    refine iff_of_false List.not_mem_nil ?_
    rintro ⟨inside, later⟩
    exact absurd inside.stop_lt (Nat.not_lt.mpr later)

/-- One place further to the left the groups that end there come in front. -/
theorem ListsFrom.append {t : Text} {place : Nat} {here groups : List Group}
    (h : ListsFrom t (place + 1) groups) (nodup : here.Nodup)
    (ends : ∀ g, g ∈ here ↔ g.IsIn t ∧ g.stop = place) : ListsFrom t place (here ++ groups) where
  nodup := by
    rw [List.nodup_append]
    refine ⟨nodup, h.nodup, ?_⟩
    rintro g mem _ later rfl
    have stop := ((ends g).mp mem).2
    have past := ((h.mem g).mp later).2
    omega
  mem g := by
    have places : g.stop = place ∨ place + 1 ≤ g.stop ↔ place ≤ g.stop := by omega
    rw [List.mem_append, ends, h.mem, ← and_or_left, places]

/-- What ends a run of digits adds the group that ends with it. -/
theorem sumGroups?_ended {c : Char} (letter : isDecimal c = false)
    (within : run.length ≤ digitLimit) (start : Nat) (rest : Text) :
    sumGroups? (.of run) (c.toLower :: rest) =
      (sumGroups? .none rest).map (((groupAt start run c).map Group.seconds).sum + ·) := by
  have small : isDecimal c.toLower = false := by rw [isDecimal_toLower, letter]
  unfold groupAt
  split
  · rename_i found
    obtain ⟨size, known⟩ := Option.isSome_iff_exists.mp ((isUnit_eq c).symm.trans found.2)
    rw [sumGroups?_unit known small found.1 within]
    simp [Group.seconds, known]
  · rename_i nothing
    rw [sumGroups?_other small]
    · simp
    · by_contra neither
      rw [not_or] at neither
      apply nothing
      rw [isUnit_eq]
      exact ⟨neither.1, Option.isSome_iff_ne_none.mpr neither.2⟩

/-- **The scan adds up the groups whose units are still to come**, when the digits just read are
given. -/
theorem exists_groups (short : HasRunsUpTo digitLimit (front ++ run ++ rest))
    (digits : ∀ c ∈ run, isDecimal c = true)
    (bound : ∀ c ∈ front.getLast?, isDecimal c = false) :
    ∃ groups : List Group, ListsFrom (front ++ run ++ rest) (front ++ run).length groups ∧
      sumGroups? (.of run) (rest.map Char.toLower) = some (groups.map Group.seconds).sum := by
  induction rest generalizing front run with
  | nil =>
    refine ⟨[], ?_, rfl⟩
    rw [List.append_nil]
    exact .nil _
  | cons c rest ih =>
    have ends (g : Group) := @mem_groupAt_iff front run rest c g digits bound
    have nodup := nodup_groupAt front.length run c
    rw [List.map_cons]
    by_cases digit : isDecimal c = true
    · -- A digit makes the run longer, and no unit stands here.
      have longer : ∀ d ∈ run ++ [c], isDecimal d = true := by
        rw [List.forall_mem_append]
        exact ⟨digits, by simpa using digit⟩
      have whole : front ++ (run ++ [c]) ++ rest = front ++ run ++ c :: rest := by simp
      have next : (front ++ (run ++ [c])).length = (front ++ run).length + 1 := by
        rw [← List.append_assoc, List.length_append, List.length_singleton]
      obtain ⟨groups, listed, sum⟩ := ih (whole ▸ short) longer bound
      rw [whole, next] at listed
      refine ⟨groupAt front.length run c ++ groups, listed.append nodup ends, ?_⟩
      rw [toLower_of_isFigure (Or.inl digit), sumGroups?_digit digit, sum, groupAt_digit digit]
      rfl
    · -- Anything else ends the run, and a new one may start behind it.
      rw [Bool.not_eq_true] at digit
      have whole : front ++ run ++ [c] ++ [] ++ rest = front ++ run ++ c :: rest := by simp
      have next : (front ++ run ++ [c] ++ []).length = (front ++ run).length + 1 := by
        rw [List.append_nil, List.length_append, List.length_singleton]
      obtain ⟨groups, listed, sum⟩ := @ih (front ++ run ++ [c]) []
        (whole ▸ short) (by simp) (by simpa using digit)
      rw [whole, next] at listed
      change sumGroups? .none _ = _ at sum
      refine ⟨groupAt front.length run c ++ groups, listed.append nodup ends, ?_⟩
      rw [sumGroups?_ended digit (short run ⟨front, c :: rest, rfl⟩ digits) front.length, sum]
      simp

/-- A text that does not end in a digit is done with when it ends. -/
theorem sumGroups?_append {a : Text} {run : Run} (start : a = [] → run = .none)
    (bound : ∀ c ∈ a.getLast?, isDecimal c = false) (b : Text) :
    sumGroups? run (a ++ b) =
      (sumGroups? run a).bind fun x => (sumGroups? .none b).map (x + ·) := by
  induction a generalizing run with
  | nil =>
    rw [start rfl]
    simp [sumGroups?]
  | cons c a ih =>
    have tail : ∀ d ∈ a.getLast?, isDecimal d = false := by
      intro d last
      apply bound
      cases a with
      | nil => cases last
      | cons => exact last
    have more := @ih .none (fun _ => rfl) tail
    rw [List.cons_append, sumGroups?, sumGroups?]
    by_cases digit : isDecimal c = true
    · rw [if_pos digit, if_pos digit]
      refine ih ?_ tail
      rintro rfl
      rw [bound c rfl] at digit
      cases digit
    · rw [if_neg digit, if_neg digit]
      split
      · split
        · exact more
        · split
          · rfl
          · rw [more]
            cases sumGroups? .none a <;> cases sumGroups? .none b <;> simp [Nat.add_assoc]
      · exact more

end

/-! ## Reading -/

theorem exists_groups_read? {t : Text} (h : isIntegerLiteral t.trim = false)
    (short : HasRunsUpTo digitLimit t) :
    ∃ groups : List Group, groups.Nodup ∧ (∀ g, g ∈ groups ↔ g.IsIn t) ∧
      read? t = some ((groups.map Group.seconds).sum : Nat) := by
  obtain ⟨groups, listed, sum⟩ := @exists_groups [] [] t short (by simp) (by simp)
  refine ⟨groups, listed.nodup, ?_, ?_⟩
  · intro g
    rw [listed.mem]
    exact and_iff_left (Nat.zero_le _)
  · rw [read?_eq_sumGroups? h]
    exact congrArg (Option.map Int.ofNat) sum

/-- **A text is read as the sum of its groups**, if it is not an integer and has no run of digits
past the limit: of all maximal runs of digits with a unit right behind them, and of nothing else.
Letter case does not matter. Two texts of which the first does not end in a digit are read behind
each other as the sum of what each is read as. -/
theorem read?_eq_sum_groups :
    (∀ t : Text, isIntegerLiteral t.trim = false → HasRunsUpTo digitLimit t →
      ∃ groups : List Group, groups.Nodup ∧ (∀ g, g ∈ groups ↔ g.IsIn t) ∧
        read? t = some ((groups.map Group.seconds).sum : Nat)) ∧
    (∀ t t' : Text, t.map Char.toLower = t'.map Char.toLower → read? t = read? t') ∧
    ∀ a b : Text, isIntegerLiteral a.trim = false → isIntegerLiteral b.trim = false →
      isIntegerLiteral (Text.trim (a ++ b)) = false → (∀ c ∈ a.getLast?, isDecimal c = false) →
      HasRunsUpTo digitLimit a → HasRunsUpTo digitLimit b →
      ∃ x y : Nat, read? a = some (x : Int) ∧ read? b = some (y : Int) ∧
        read? (a ++ b) = some ((x + y : Nat) : Int) := by
  refine ⟨fun t => exists_groups_read?, ?_, ?_⟩
  · intro t t' same
    rw [← read?_map_toLower t, same, read?_map_toLower]
  · intro a b ha hb hab bound shortA shortB
    obtain ⟨groupsA, -, -, sumA⟩ := exists_groups_read? ha shortA
    obtain ⟨groupsB, -, -, sumB⟩ := exists_groups_read? hb shortB
    refine ⟨_, _, sumA, sumB, ?_⟩
    rw [read?_eq_sumGroups? ha] at sumA
    rw [read?_eq_sumGroups? hb] at sumB
    obtain ⟨x, scanA, valueA⟩ := Option.map_eq_some_iff.mp sumA
    obtain ⟨y, scanB, valueB⟩ := Option.map_eq_some_iff.mp sumB
    have bound' : ∀ c ∈ (a.map Char.toLower).getLast?, isDecimal c = false := by
      intro c last
      rw [List.getLast?_map] at last
      obtain ⟨d, ends, rfl⟩ := Option.map_eq_some_iff.mp last
      rw [isDecimal_toLower, bound d ends]
    rw [read?_eq_sumGroups? hab, List.map_append, sumGroups?_append (fun _ => rfl) bound', scanA,
      scanB, ← Int.ofNat.inj valueA, ← Int.ofNat.inj valueB]
    rfl

/-- Digits of another script and capital units count; a count with a point in it starts behind the
point. -/
theorem read?_eq_sum_groups_mixed :
    let t : Text := "a 12H3.5m٣d 7h6".toList
    let a : Text := "7H 2x".toList
    let b : Text := "3m".toList
    (∃ groups : List Group, groups.Nodup ∧ (∀ g, g ∈ groups ↔ g.IsIn t) ∧
      read? t = some ((groups.map Group.seconds).sum : Nat)) ∧
    read? t = some 327900 ∧ read? "A 12h3.5M٣D 7H6".toList = read? t ∧
    ∃ x y : Nat, read? a = some (x : Int) ∧ read? b = some (y : Int) ∧
      read? (a ++ b) = some ((x + y : Nat) : Int) := by
  intro t a b
  obtain ⟨sum, case, join⟩ := read?_eq_sum_groups
  have limit : 15 ≤ digitLimit := by decide
  have short {u : Text} (h : u.length ≤ 15) : HasRunsUpTo digitLimit u :=
    hasRunsUpTo_of_length (h.trans limit)
  have bound : ∀ c ∈ a.getLast?, isDecimal c = false := by
    rintro c ⟨⟩
    decide
  refine ⟨sum t (by decide) (short (by decide)), by decide +kernel, case _ t (by decide), ?_⟩
  exact join a b (by decide) (by decide) (by decide) bound (short (by decide)) (short (by decide))

end Duration
end MacroShell
