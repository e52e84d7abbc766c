import Mathlib.Data.Nat.Find
import MacroShell.Language.Generator
import MacroShell.Proofs.Number.Integer
import MacroShell.Proofs.Text.Pattern
import MacroShell.Proofs.Text.Space
import MacroShell.Proofs.Unicode.Classes

/-!
# Calls in a seed

    name(arguments)

A generator call is looked for anywhere in a seed, and the value of the first one stands for the
whole seed: what is around the call is dropped, even where it is more than space.
-/

namespace MacroShell
namespace Generator

def callText (name inside : Text) : Text := name ++ '(' :: (inside ++ [')'])

/-- The name of a call consists of word characters, and its arguments reach up to the first closing
parenthesis. -/
def IsCall (name inside : Text) : Prop :=
  name ≠ [] ∧ (∀ c ∈ name, isWord c = true) ∧ ')' ∉ inside

instance (name inside : Text) : Decidable (IsCall name inside) :=
  haveI := List.decidableBAll (fun c => isWord c = true) name
  inferInstanceAs (Decidable (name ≠ [] ∧ (∀ c ∈ name, isWord c = true) ∧ ')' ∉ inside))

def CallAt (t : Text) (position : Nat) (name inside : Text) : Prop :=
  IsCall name inside ∧ callText name inside <+: t.drop position

/-- The text has this call, and none that begins earlier. -/
def FirstCall (t name inside : Text) : Prop :=
  ∃ position, CallAt t position name inside ∧ ∀ p < position, ∀ n i, ¬ CallAt t p n i

def HasCall (t : Text) : Prop := ∃ position name inside, CallAt t position name inside

/-! ## Finding a call -/

theorem isWord_opening : isWord '(' = false := by decide

theorem isWord_closing : isWord ')' = false := by decide

theorem takeWhile_callText {name inside : Text} (h : IsCall name inside) (rest : Text) :
    (callText name inside ++ rest).takeWhile isWord = name ∧
      (callText name inside ++ rest).dropWhile isWord = '(' :: (inside ++ ')' :: rest) := by
  obtain ⟨-, word, -⟩ := h
  have typed : callText name inside ++ rest = name ++ '(' :: (inside ++ ')' :: rest) := by
    simp [callText]
  rw [typed, List.takeWhile_append_of_pos word, List.dropWhile_append_of_pos word]
  simp [isWord_opening]

theorem takeWhile_closing {inside : Text} (h : ')' ∉ inside) (rest : Text) :
    (inside ++ ')' :: rest).takeWhile (· != ')') = inside := by
  rw [List.takeWhile_append_of_pos (Pattern.forall_mem_bne.mpr h)]
  simp

theorem callAt?_callText {name inside : Text} (call : IsCall name inside) (rest : Text) :
    callAt? (callText name inside ++ rest) = some (name, inside) := by
  obtain ⟨front, behind⟩ := takeWhile_callText call rest
  have closed : (inside ++ ')' :: rest).contains ')' = true := by simp
  unfold callAt?
  rw [front, behind]
  split
  · exact absurd rfl call.1
  · rename_i _ same
    cases same
    rw [if_pos closed, takeWhile_closing call.2.2]
  · rename_i other
    exact (other _ rfl).elim

theorem of_callAt? {t name inside : Text} (found : callAt? t = some (name, inside)) :
    IsCall name inside ∧ callText name inside <+: t := by
  unfold callAt? at found
  split at found
  · cases found
  · rename_i rest behind nonempty
    split at found
    · rename_i closed
      cases found
      obtain ⟨inside, after, rfl, inner⟩ :=
        List.eq_append_cons_of_mem (List.contains_iff_mem.mp closed)
      have word : ∀ c ∈ t.takeWhile isWord, isWord c = true :=
        List.all_eq_true.mp List.all_takeWhile
      have whole : t = t.takeWhile isWord ++ '(' :: (inside ++ ')' :: after) := by
        rw [← behind, List.takeWhile_append_dropWhile]
      rw [takeWhile_closing inner]
      refine ⟨⟨nonempty, word, inner⟩, after, ?_⟩
      rw [callText, List.append_assoc, List.cons_append, List.append_assoc]
      exact whole.symm
    · cases found
  · cases found

/-- The name of a call takes up all the word characters at its place, since it ends in front of a
parenthesis. -/
theorem callAt?_eq_some_iff {t name inside : Text} :
    callAt? t = some (name, inside) ↔ IsCall name inside ∧ callText name inside <+: t := by
  constructor
  · exact of_callAt?
  · rintro ⟨call, rest, rfl⟩
    exact callAt?_callText call rest

theorem callAt_zero {t name inside : Text} :
    CallAt t 0 name inside ↔ callAt? t = some (name, inside) := callAt?_eq_some_iff.symm

theorem callAt_succ {c : Char} {t name inside : Text} {position : Nat} :
    CallAt (c :: t) (position + 1) name inside ↔ CallAt t position name inside := Iff.rfl

theorem not_callAt_nil {position : Nat} {name inside : Text} : ¬ CallAt [] position name inside := by
  rintro ⟨-, begins⟩
  rw [List.drop_nil, List.prefix_nil] at begins
  simp [callText] at begins

/-- A call right at the front is the first one. -/
theorem firstCall_of_callAt? {t n i : Text} (here : callAt? t = some (n, i)) {name inside : Text} :
    FirstCall t name inside ↔ n = name ∧ i = inside := by
  have first := callAt_zero.mpr here
  constructor
  · rintro ⟨position, call, earliest⟩
    cases position with
    | zero =>
      have same := callAt_zero.mp call
      rw [here, Option.some.injEq, Prod.mk.injEq] at same
      exact same
    | succ position => exact absurd first (earliest 0 position.succ_pos n i)
  · rintro ⟨rfl, rfl⟩
    exact ⟨0, first, nofun⟩

/-- With no call at the front the first one is that of the rest. -/
theorem firstCall_cons {c : Char} {t : Text} (none : callAt? (c :: t) = none) {name inside : Text} :
    FirstCall (c :: t) name inside ↔ FirstCall t name inside := by
  have later : ∀ n i, ¬ CallAt (c :: t) 0 n i := by
    intro n i call
    have found := callAt_zero.mp call
    rw [none] at found
    cases found
  constructor
  · rintro ⟨position, call, earliest⟩
    cases position with
    | zero => exact absurd call (later name inside)
    | succ position =>
      exact ⟨position, callAt_succ.mp call, fun p less => earliest (p + 1) (Nat.succ_lt_succ less)⟩
  · rintro ⟨position, call, earliest⟩
    refine ⟨position + 1, callAt_succ.mpr call, fun p less => ?_⟩
    cases p with
    | zero => exact later
    | succ p => exact earliest p (Nat.lt_of_succ_lt_succ less)

/-- The search tries the positions from left to right. -/
theorem findCall?_eq_some_iff {t name inside : Text} :
    findCall? t = some (name, inside) ↔ FirstCall t name inside := by
  induction t with
  | nil =>
    constructor
    · nofun
    · rintro ⟨position, call, -⟩
      exact absurd call not_callAt_nil
  | cons c rest ih =>
    rw [findCall?]
    cases here : callAt? (c :: rest) with
    | some found =>
      obtain ⟨n, i⟩ := found
      rw [firstCall_of_callAt? here]
      simp
    | none =>
      rw [firstCall_cons here, ← ih]
      rfl

/-- Among the calls of a text one comes first. -/
theorem exists_firstCall_iff {t : Text} : (∃ name inside, FirstCall t name inside) ↔ HasCall t := by
  classical
  constructor
  · rintro ⟨name, inside, position, call, -⟩
    exact ⟨position, name, inside, call⟩
  · intro some
    obtain ⟨name, inside, call⟩ := Nat.find_spec some
    refine ⟨name, inside, Nat.find some, call, fun p less n i other => ?_⟩
    exact Nat.find_min some less ⟨n, i, other⟩

theorem findCall?_eq_none_iff {t : Text} : findCall? t = none ↔ ¬ HasCall t := by
  rw [← exists_firstCall_iff, Option.eq_none_iff_forall_ne_some, Prod.forall]
  simp only [ne_eq, findCall?_eq_some_iff, not_exists]

/-- A call that is the whole of a text but for space around it is the first one. -/
theorem firstCall_of_trim {t name inside : Text} (call : IsCall name inside)
    (whole : t.trim = callText name inside) : FirstCall t name inside := by
  obtain ⟨front, back, blank, -, split⟩ := t.exists_trim
  rw [whole, List.append_assoc] at split
  refine ⟨front.length, ⟨call, back, ?_⟩, ?_⟩
  · rw [split, List.drop_left]
  · -- A call that began earlier would have space in its name.
    rintro p less n i ⟨⟨nonempty, word, -⟩, rest, begins⟩
    obtain ⟨c, tail, rfl⟩ := List.exists_cons_of_ne_nil nonempty
    have here : front[p]? = some c := by
      rw [← List.getElem?_append_left less, ← split, ← List.head?_drop, ← begins]
      rfl
    have space := Text.isBlank_iff.mp blank c (List.mem_of_getElem? here)
    have solid := word c List.mem_cons_self
    rw [isWord_of_isSpace space] at solid
    cases solid

/-! ## The value of a call -/

theorem notMem_naturalText (n : Nat) : ')' ∉ naturalText n := by
  intro mem
  have digit := isDecimal_of_mem_naturalText mem
  exact absurd digit (by decide)

theorem notMem_arguments {inside argument : Text} (inner : ')' ∉ inside)
    (h : argument ∈ arguments inside) : ')' ∉ argument := by
  obtain ⟨piece, mem, rfl⟩ := List.mem_map.mp h
  obtain ⟨first, others, split, -, parts⟩ := Text.splitOn_parts (· == ',') inside
  rw [split] at mem
  intro closing
  exact inner ((parts piece mem).1.subset (piece.trim_isInfix.subset closing))

theorem notMem_imageOptions : ')' ∉ imageOptions := by
  have listed : imageOptions = _ := String.toList_ofList
  rw [listed]
  decide

theorem notMem_value? {now : Moment} {g : Generator} {given : List Text} {value : Text}
    (clear : ∀ argument ∈ given, ')' ∉ argument) (h : g.value? now given = some value) :
    ')' ∉ value := by
  unfold value? at h
  split at h
  · rw [← Option.some.inj (Option.ite_none_right_eq_some.mp h).2]
    simp [timeText, notMem_naturalText]
  · rw [← Option.some.inj (Option.ite_none_right_eq_some.mp h).2]
    simp [dateText, notMem_naturalText]
  · rename_i image debugger
    rw [← Option.some.inj h]
    have fixed : ')' ∉ "reg add \"".toList ∧ ')' ∉ "\" /v Debugger /t REG_SZ /d \"".toList ∧
        ')' ∉ "\" /f".toList ∧ ')' ≠ '\\' := by decide
    have image : ')' ∉ image := clear image List.mem_cons_self
    have debugger : ')' ∉ debugger := clear debugger (List.mem_cons_of_mem _ List.mem_cons_self)
    simp only [List.mem_append, List.mem_cons, not_or]
    simp only [fixed, notMem_imageOptions, image, debugger, not_false_eq_true, and_self]
  · cases h

theorem notMem_unknown {name : Text} (word : ∀ c ∈ name, isWord c = true) :
    ')' ∉ unknown name := by
  have before : ')' ∉ "[Error: Unknown function '".toList := by decide
  have behind : ')' ∉ "']".toList := by decide
  have named : ')' ∉ name :=
    fun mem => Bool.false_ne_true (isWord_closing.symm.trans (word ')' mem))
  exact List.not_mem_append (List.not_mem_append before named) behind

/-- The closing parenthesis of a call is in its value no longer. -/
theorem notMem_generate {name inside : Text} (call : IsCall name inside) (now : Moment) :
    ')' ∉ generate now name (arguments inside) := by
  obtain ⟨-, word, inner⟩ := call
  rw [generate]
  cases made : (ofName? name).bind (·.value? now (arguments inside)) with
  | none => exact notMem_unknown word
  | some value =>
    obtain ⟨g, -, given⟩ := Option.bind_eq_some_iff.mp made
    exact notMem_value? (fun _ => notMem_arguments inner) given

/-! ## The value of a seed -/

/-- A value as it comes out of a pipeline that has steps, under the type that is detected. -/
def piped (now : Moment) (value : Text) : Option Text → Text
  | none => value
  | some p =>
    if p.isBlank then value else Pipeline.evaluate now (detectKind now value).name value (some p)

theorem dispatch_of_firstCall {seed name inside : Text} (first : FirstCall seed name inside)
    (now : Moment) (pipeline : Option Text) :
    dispatch now seed pipeline = piped now (generate now name (arguments inside)) pipeline := by
  rw [dispatch, findCall?_eq_some_iff.mpr first]
  cases pipeline with
  | none => rfl
  | some p =>
    simp only [piped, Option.filter_some]
    cases p.isBlank <;> rfl

theorem dispatch_of_not_hasCall {seed : Text} (absent : ¬ HasCall seed) (now : Moment)
    (pipeline : Option Text) : dispatch now seed pipeline = seed := by
  rw [dispatch, findCall?_eq_none_iff.mpr absent]

theorem HasCall.closing_mem {t : Text} (h : HasCall t) : ')' ∈ t := by
  obtain ⟨position, name, inside, -, begins⟩ := h
  have typed : ')' ∈ callText name inside := by simp [callText]
  exact List.mem_of_mem_drop (begins.subset typed)

/-- **A seed stands for the first call in it.** A seed that is a call, but for space around it, is
replaced by the value of the call, sent through the pipeline. So is any other seed with a call
somewhere in it, and what is before and behind the call is lost. A seed is kept as it is if and only
if there is no call in it. -/
theorem dispatch_first (now : Moment) (seed : Text) (pipeline : Option Text) :
    (∀ name inside, IsCall name inside → seed.trim = callText name inside →
      dispatch now seed pipeline = piped now (generate now name (arguments inside)) pipeline) ∧
    (∀ name inside, FirstCall seed name inside →
      dispatch now seed pipeline = piped now (generate now name (arguments inside)) pipeline) ∧
    (¬ HasCall seed → dispatch now seed pipeline = seed) ∧
    (dispatch now seed none = seed ↔ ¬ HasCall seed) := by
  refine ⟨?_, fun _ _ first => dispatch_of_firstCall first now pipeline,
    fun absent => dispatch_of_not_hasCall absent now pipeline, ?_,
    fun absent => dispatch_of_not_hasCall absent now none⟩
  · intro name inside call whole
    exact dispatch_of_firstCall (firstCall_of_trim call whole) now pipeline
  · intro kept some
    obtain ⟨name, inside, first⟩ := exists_firstCall_iff.mpr some
    have call : IsCall name inside := first.choose_spec.1.1
    have closing := some.closing_mem
    rw [← kept, dispatch_of_firstCall first] at closing
    exact notMem_generate call now closing

/-- Space around a call and around its arguments does not count, other text around it is lost, and
without its closing parenthesis it is no call. -/
theorem dispatch_first_surrounded :
    let spaced : Text := " ifeo( a ,b ) ".toList
    let surrounded : Text := "say foo(1) twice".toList
    let unclosed : Text := "foo(1".toList
    IsCall "ifeo".toList " a ,b ".toList ∧ spaced.trim = callText "ifeo".toList " a ,b ".toList ∧
      dispatch .epoch spaced none = generate .epoch "ifeo".toList ["a".toList, "b".toList] ∧
      FirstCall surrounded "foo".toList "1".toList ∧
      dispatch .epoch surrounded none = unknown "foo".toList ∧
      ¬ HasCall unclosed ∧ dispatch .epoch unclosed none = unclosed := by
  intro spaced surrounded unclosed
  have call : IsCall "ifeo".toList " a ,b ".toList := by decide
  have whole : spaced.trim = callText "ifeo".toList " a ,b ".toList := by decide
  have first : FirstCall surrounded "foo".toList "1".toList :=
    findCall?_eq_some_iff.mp (by decide)
  have absent : ¬ HasCall unclosed := findCall?_eq_none_iff.mp (by decide)
  exact ⟨call, whole, (dispatch_first .epoch spaced none).1 _ _ call whole, first,
    (dispatch_first .epoch surrounded none).2.1 _ _ first, absent,
    (dispatch_first .epoch unclosed none).2.2.1 absent⟩

/-- A seed that is no call is not always kept. -/
theorem dispatch_not_kept : ¬ ∀ (now : Moment) (seed : Text) (pipeline : Option Text),
    (¬ ∃ name inside, IsCall name inside ∧ seed.trim = callText name inside) →
      dispatch now seed pipeline = seed := by
  intro all
  have noCall : ¬ ∃ name inside, IsCall name inside ∧
      Text.trim "say foo(1) twice".toList = callText name inside := by
    rintro ⟨name, inside, -, whole⟩
    have last := congrArg List.getLast? whole
    rw [callText, ← List.cons_append, ← List.append_assoc, List.getLast?_concat] at last
    exact absurd last (by decide)
  exact absurd (all .epoch _ none noCall) (by decide)

end Generator
end MacroShell
