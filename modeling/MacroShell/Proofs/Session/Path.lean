import MacroShell.Proofs.Text.Space
import MacroShell.Session.Path

/-!
# Normal paths

An absolute path is normal if there is nothing in it to be resolved: one or two slashes, and then
components that are neither empty nor dots, with single slashes between them.
-/

namespace MacroShell
namespace Path

structure IsName (t : Text) : Prop where
  nonempty : t ≠ []
  whole : '/' ∉ t
  present : t ≠ ['.']
  parent : t ≠ ['.', '.']

def IsNormal (path : Text) : Prop :=
  ∃ root names, (root = ['/'] ∨ root = ['/', '/']) ∧ (∀ t ∈ names, IsName t) ∧
    path = root ++ Text.join ['/'] names

/-! ## Becoming normal -/

theorem push_names {names : List Text} {piece : Text} (h : ∀ t ∈ names, IsName t)
    (whole : '/' ∉ piece) : ∀ t ∈ push true names piece, IsName t := by
  unfold push
  split
  · exact h
  · rename_i solid
    simp only [Bool.or_eq_true, List.isEmpty_iff, decide_eq_true_eq, not_or] at solid
    split
    · split
      · exact List.forall_mem_nil _
      · obtain ⟨last, before⟩ := List.forall_mem_cons.mp h
        rw [if_neg last.parent]
        exact before
    · rename_i parent
      exact List.forall_mem_cons.mpr ⟨⟨solid.1, whole, solid.2, parent⟩, h⟩

theorem foldl_push_names {pieces names : List Text} (h : ∀ t ∈ names, IsName t)
    (whole : ∀ piece ∈ pieces, '/' ∉ piece) :
    ∀ t ∈ pieces.foldl (push true) names, IsName t := by
  induction pieces generalizing names with
  | nil => exact h
  | cons piece rest ih =>
    obtain ⟨first, others⟩ := List.forall_mem_cons.mp whole
    exact ih (push_names h first) others

theorem root_of_absolute {path : Text} (h : path.head? = some '/') :
    root path = ['/'] ∨ root path = ['/', '/'] := by
  unfold root
  split
  · exact Or.inl rfl
  · exact Or.inr rfl
  · exact Or.inl rfl
  · rename_i other
    cases path with
    | nil => cases h
    | cons c rest =>
      obtain rfl : c = '/' := Option.some.inj h
      exact absurd rfl (other rest)

theorem isNormal_normalise {path : Text} (h : path.head? = some '/') :
    IsNormal (normalise path) := by
  have slashes := root_of_absolute h
  have absolute : (!(root path).isEmpty) = true := by
    rcases slashes with same | same <;> rw [same] <;> rfl
  have names : ∀ t ∈ components path, IsName t := by
    obtain ⟨first, others, split, -, parts⟩ := Text.splitOn_parts (· == '/') path
    rw [components, absolute, split]
    intro t mem
    refine foldl_push_names (List.forall_mem_nil _) ?_ t (List.mem_reverse.mp mem)
    intro piece mem slash
    have other := (parts piece mem).2 '/' slash
    simp at other
  refine ⟨root path, components path, slashes, names, ?_⟩
  unfold normalise
  split
  · rename_i empty
    rcases slashes with same | same <;> rw [same] at empty <;> cases empty
  · rfl

/-- **What a path means in an absolute directory is normal.** -/
theorem isNormal_resolve {directory : Text} (h : directory.head? = some '/') (path : Text) :
    IsNormal (resolve directory path) := by
  apply isNormal_normalise
  unfold join
  cases directory with
  | nil => cases h
  | cons c rest =>
    obtain rfl : c = '/' := Option.some.inj h
    split
    · assumption
    · split <;> rfl

/-! ## Being normal -/

theorem IsNormal.absolute {path : Text} (h : IsNormal path) : path.head? = some '/' := by
  obtain ⟨root, names, rfl | rfl, -, rfl⟩ := h <;> rfl

theorem push_name {names : List Text} {t : Text} (h : IsName t) :
    push true names t = t :: names := by
  simp [push, h.nonempty, h.present, h.parent]

theorem foldl_push_name {pieces : List Text} (h : ∀ t ∈ pieces, IsName t) (names : List Text) :
    pieces.foldl (push true) names = pieces.reverse ++ names := by
  induction pieces generalizing names with
  | nil => rfl
  | cons piece rest ih =>
    obtain ⟨first, others⟩ := List.forall_mem_cons.mp h
    rw [List.foldl_cons, push_name first, ih others, List.reverse_cons, List.append_assoc]
    rfl

/-- The pieces of a normal path are its names; what stands before them counts for nothing. -/
theorem foldl_push_join {names : List Text} (h : ∀ t ∈ names, IsName t) :
    ((Text.join ['/'] names).splitOn (· == '/')).foldl (push true) [] = names.reverse := by
  by_cases filled : names = []
  · subst filled
    rfl
  · have whole : ∀ t ∈ names, '/' ∉ t := fun t mem => (h t mem).whole
    have pieces : (Text.join ['/'] names).splitOn (· == '/') = names := by
      rw [Text.splitOn_eq_splitOnP]
      exact List.splitOn_intercalate '/' whole filled
    rw [pieces, foldl_push_name h, List.append_nil]

theorem head?_join_ne {names : List Text} (h : ∀ t ∈ names, IsName t) :
    (Text.join ['/'] names).head? ≠ some '/' := by
  cases names with
  | nil => nofun
  | cons t rest =>
    obtain ⟨name, -⟩ := List.forall_mem_cons.mp h
    cases t with
    | nil => exact absurd rfl name.nonempty
    | cons c t =>
      have other : c ≠ '/' := fun same => name.whole (by simp [same])
      cases rest <;> simpa [Text.join, List.intercalate] using other

theorem root_append {slashes rest : Text} (single : slashes = ['/'] ∨ slashes = ['/', '/'])
    (next : rest.head? ≠ some '/') : root (slashes ++ rest) = slashes := by
  cases rest with
  | nil => rcases single with rfl | rfl <;> rfl
  | cons c rest =>
    have other : c ≠ '/' := fun same => next (congrArg some same)
    rcases single with rfl | rfl <;> simp [root, other]

theorem IsNormal.normalise_eq {path : Text} (h : IsNormal path) : normalise path = path := by
  obtain ⟨slashes, names, single, proper, rfl⟩ := h
  have kept : root (slashes ++ Text.join ['/'] names) = slashes :=
    root_append single (head?_join_ne proper)
  have pieces : components (slashes ++ Text.join ['/'] names) = names := by
    rw [components, kept]
    rcases single with rfl | rfl <;> simp [Text.splitOn, push, foldl_push_join proper]
  rw [normalise, kept, pieces]
  rcases single with rfl | rfl <;> rfl

/-- **The normal paths are the absolute ones that stay as they are.** -/
theorem isNormal_iff {path : Text} :
    IsNormal path ↔ path.head? = some '/' ∧ normalise path = path := by
  constructor
  · intro h
    exact ⟨h.absolute, h.normalise_eq⟩
  · rintro ⟨absolute, same⟩
    rw [← same]
    exact isNormal_normalise absolute

end Path
end MacroShell
