import MacroShell.Function.Table
import MacroShell.Proofs.Function.Reading

/-!
# Well-formed function tables

The names in a table are trimmed and not empty, and no two of them differ in letter case alone.
Reading, storing and deleting definitions keep it so, and a function is found by its own name.
-/

namespace MacroShell
namespace Definition

/-- A name as it is read: not empty, without space around it. -/
def Named (d : Definition) : Prop := d.name ≠ [] ∧ d.name.trim = d.name

theorem read_named {source : Text} {d : Definition} (h : read source = .ok d) : d.Named :=
  ⟨(proper_of_read h).isName.nonempty, (proper_of_read h).isName.trimmed⟩

end Definition

namespace FunctionTable

/-- Names are trimmed and not empty, and told apart by their small letters. -/
structure WellFormed (t : FunctionTable) : Prop where
  named : ∀ d ∈ t.definitions, d.Named
  distinct : (t.definitions.map Definition.key).Nodup

theorem wellFormed_empty : empty.WellFormed := ⟨nofun, List.nodup_nil⟩

theorem mem_insert {d e : Definition} {ds : List Definition} (h : e ∈ insert d ds) :
    e = d ∨ e ∈ ds := by
  induction ds with
  | nil => exact Or.inl (List.mem_singleton.mp h)
  | cons first rest ih =>
    rw [insert] at h
    split at h
    · rcases List.mem_cons.mp h with rfl | later
      · exact Or.inl rfl
      · exact Or.inr (List.mem_cons_of_mem first later)
    · rcases List.mem_cons.mp h with rfl | later
      · exact Or.inr List.mem_cons_self
      · exact (ih later).imp_right (List.mem_cons_of_mem first)

/-- Storing a definition adds its key at the end, unless it is there already. -/
theorem keys_insert (d : Definition) (ds : List Definition) :
    (insert d ds).map Definition.key =
      if d.key ∈ ds.map Definition.key then ds.map Definition.key
      else ds.map Definition.key ++ [d.key] := by
  induction ds with
  | nil => rfl
  | cons first rest ih =>
    rw [insert]
    by_cases same : first.key = d.key
    · simp [same]
    · simp only [same, ↓reduceIte, List.map_cons, ih, List.mem_cons, Ne.symm same, false_or]
      split <;> rfl

theorem WellFormed.define {t : FunctionTable} (h : t.WellFormed) {d : Definition}
    (hd : d.Named) : (t.define d).WellFormed := by
  constructor
  · intro e he
    rcases mem_insert he with rfl | old
    · exact hd
    · exact h.named e old
  · rw [FunctionTable.define, keys_insert]
    split
    · exact h.distinct
    · rename_i fresh
      refine List.nodup_append.mpr ⟨h.distinct, by simp, ?_⟩
      intro a ha b hb
      rw [List.mem_singleton.mp hb]
      rintro rfl
      exact fresh ha

theorem WellFormed.delete {t : FunctionTable} (h : t.WellFormed) (name : Text) :
    (t.delete name).2.WellFormed := by
  constructor
  · intro d hd
    exact h.named d (List.mem_of_mem_filter hd)
  · exact h.distinct.sublist (List.filter_sublist.map Definition.key)

theorem find?_key {d : Definition} {ds : List Definition}
    (distinct : (ds.map Definition.key).Nodup) (hd : d ∈ ds) :
    ds.find? (fun e => e.key = d.key) = some d := by
  induction ds with
  | nil => cases hd
  | cons first rest ih =>
    obtain ⟨fresh, others⟩ := List.nodup_cons.mp distinct
    rcases List.mem_cons.mp hd with rfl | later
    · simp
    · have differs : first.key ≠ d.key :=
        fun same => fresh (same ▸ List.mem_map_of_mem later)
      rw [List.find?_cons_of_neg (by simpa using differs)]
      exact ih others later

/-- A function is found by its name. -/
theorem WellFormed.get?_name {t : FunctionTable} (h : t.WellFormed) {d : Definition}
    (hd : d ∈ t.definitions) : t.get? d.name = some d := by
  obtain ⟨nonempty, trimmed⟩ := h.named d hd
  rw [get?, trimmed, if_neg (by simpa using nonempty)]
  exact find?_key h.distinct hd

theorem mem_of_get? {t : FunctionTable} {name : Text} {d : Definition} (h : t.get? name = some d) :
    d ∈ t.definitions := by
  unfold get? at h
  split at h
  · cases h
  · exact List.mem_of_find?_eq_some h

theorem get?_trim {t : FunctionTable} {name : Text} (h : name.isBlank = false) :
    t.get? name.trim = t.get? name := by
  have nonempty : name ≠ [] := by
    rintro rfl
    cases h
  have trimmed : name.trim ≠ [] := by
    rw [Ne, Text.trim_eq_nil_iff, h]
    nofun
  simp [get?, Text.trim_trim, nonempty, trimmed]

/-- A function that is found by its name has a name that is not blank. -/
theorem not_isBlank_of_get? {t : FunctionTable} {d : Definition} (h : t.get? d.name = some d) :
    d.name.isBlank = false := by
  unfold get? at h
  split at h
  · cases h
  · rename_i nonempty
    rw [← Bool.not_eq_true]
    intro blank
    rw [Text.trim_eq_nil_iff.mpr blank] at h
    have key : d.key = Text.lower [] := by simpa using List.find?_some h
    have nil : d.name = [] := Text.lower_eq_nil_iff.mp key
    exact nonempty (by rw [nil]; rfl)

end FunctionTable
end MacroShell
