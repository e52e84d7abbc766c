import Mathlib.Data.List.Nodup
import MacroShell.Proofs.Function.Table

/-!
# A function table is an ordered map

`OrderedMap` knows nothing of definitions: it has keys in the order in which they came, and a value
for each. A table answers as the map does whose keys are its names in small letters (`view`).
-/

namespace MacroShell

/-- A map that keeps the order in which its keys came. -/
structure OrderedMap (α : Type) where
  keys : List Text
  value : Text → Option α

namespace OrderedMap

variable {α : Type}

def empty : OrderedMap α := ⟨[], fun _ => none⟩

/-- A key that is there already stays in its place, and a new one comes last. -/
def put (m : OrderedMap α) (key : Text) (a : α) : OrderedMap α :=
  ⟨if key ∈ m.keys then m.keys else m.keys ++ [key], fun k => if k = key then some a else m.value k⟩

def erase (m : OrderedMap α) (key : Text) : OrderedMap α :=
  ⟨m.keys.filter (· ≠ key), fun k => if k = key then none else m.value k⟩

def entries (m : OrderedMap α) : List α := m.keys.filterMap m.value

end OrderedMap

inductive TableRequest
  | define (source : Text)
  | delete (name : Text)
  | get (name : Text)
  | contains (name : Text)
  | size
  | names
  | all

inductive TableReply
  | defined (result : Except DefinitionError Definition)
  | deleted (present : Bool)
  | got (d : Option Definition)
  | contained (present : Bool)
  | counted (n : Nat)
  | named (names : List Text)
  | listed (definitions : List Definition)

/-- Answers a request from an ordered map whose keys are names in small letters. -/
def OrderedMap.serve (m : OrderedMap Definition) :
    TableRequest → TableReply × OrderedMap Definition
  | .define source =>
    match Definition.read source with
    | .ok d => (.defined (.ok d), m.put d.name.lower d)
    | .error e => (.defined (.error e), m)
  | .delete name => (.deleted (m.value name.trim.lower).isSome, m.erase name.trim.lower)
  | .get name => (.got (m.value name.trim.lower), m)
  | .contains name => (.contained (m.value name.trim.lower).isSome, m)
  | .size => (.counted m.keys.length, m)
  | .names => (.named (m.entries.map Definition.name), m)
  | .all => (.listed m.entries, m)

def serveAll {σ : Type} (serve : σ → TableRequest → TableReply × σ) (s : σ) :
    List TableRequest → List TableReply × σ
  | [] => ([], s)
  | request :: rest =>
    let (reply, s) := serve s request
    let (replies, s) := serveAll serve s rest
    (reply :: replies, s)

namespace FunctionTable

def serve (t : FunctionTable) : TableRequest → TableReply × FunctionTable
  | .define source =>
    match t.defineFrom source with
    | .ok (d, t) => (.defined (.ok d), t)
    | .error e => (.defined (.error e), t)
  | .delete name => let (present, t) := t.delete name; (.deleted present, t)
  | .get name => (.got (t.get? name), t)
  | .contains name => (.contained (t.contains name), t)
  | .size => (.counted t.size, t)
  | .names => (.named t.names, t)
  | .all => (.listed t.definitions, t)

/-- The table as a map: the keys of its definitions, and for each key the definition with it. -/
def view (t : FunctionTable) : OrderedMap Definition :=
  ⟨t.definitions.map Definition.key, fun k => t.definitions.find? fun d => d.key = k⟩

variable {t : FunctionTable}

/-! ## Storing and deleting -/

theorem find?_insert (d : Definition) (k : Text) (ds : List Definition) :
    (insert d ds).find? (fun e => e.key = k) =
      if k = d.key then some d else ds.find? fun e => e.key = k := by
  induction ds with
  | nil => by_cases same : d.key = k <;> simp [insert, same, eq_comm]
  | cons first rest ih =>
    rw [insert]
    by_cases replaced : first.key = d.key
    · by_cases same : d.key = k
      · simp [replaced, same]
      · simp [replaced, same, Ne.symm same]
    · by_cases same : first.key = k
      · have other : k ≠ d.key := same ▸ replaced
        simp [same, other]
      · simp [replaced, same, ih]

theorem view_define (t : FunctionTable) (d : Definition) :
    (t.define d).view = t.view.put d.key d := by
  simp only [view, define, OrderedMap.put, keys_insert, find?_insert, OrderedMap.mk.injEq,
    and_true]
  congr

theorem view_delete (t : FunctionTable) (name : Text) :
    (t.delete name).2.view = t.view.erase name.trim.lower := by
  simp only [view, delete, OrderedMap.erase, List.filter_map, OrderedMap.mk.injEq]
  refine ⟨rfl, funext fun k => ?_⟩
  rw [List.find?_filter]
  by_cases same : k = name.trim.lower
  · simp [same]
  · rw [if_neg same]
    congr 1
    funext d
    by_cases key : d.key = k <;> simp [key, same]

theorem delete_present (t : FunctionTable) (name : Text) :
    (t.delete name).1 = (t.view.value name.trim.lower).isSome := by
  rw [delete, view, Bool.eq_iff_iff, List.any_eq_true, List.find?_isSome]

theorem insert_append {d : Definition} {before : List Definition}
    (apart : ∀ e ∈ before, e.key ≠ d.key) (after : List Definition) :
    insert d (before ++ after) = before ++ insert d after := by
  induction before with
  | nil => rfl
  | cons first rest ih =>
    obtain ⟨here, others⟩ := List.forall_mem_cons.mp apart
    rw [List.cons_append, insert, if_neg here, ih others, List.cons_append]

/-- A definition has its key to itself. -/
theorem WellFormed.apart (h : t.WellFormed) {before after : List Definition} {d : Definition}
    (split : t.definitions = before ++ d :: after) :
    (∀ e ∈ before, e.key ≠ d.key) ∧ ∀ e ∈ after, e.key ≠ d.key := by
  have distinct := h.distinct
  rw [split, List.map_append, List.map_cons, List.nodup_middle, List.nodup_cons,
    ← List.map_append] at distinct
  refine List.forall_mem_append.mp fun e mem same => distinct.1 ?_
  rw [← same]
  exact List.mem_map_of_mem mem

theorem WellFormed.define_replaces (h : t.WellFormed) {before after : List Definition}
    {old d : Definition} (split : t.definitions = before ++ old :: after)
    (same : old.key = d.key) : (t.define d).definitions = before ++ d :: after := by
  have apart := (h.apart split).1
  rw [same] at apart
  rw [FunctionTable.define, split, insert_append apart, insert, if_pos same]

theorem define_appends {d : Definition} (fresh : ∀ e ∈ t.definitions, e.key ≠ d.key) :
    (t.define d).definitions = t.definitions ++ [d] := by
  have last := insert_append fresh []
  rw [List.append_nil] at last
  exact last

theorem WellFormed.delete_removes (h : t.WellFormed) {before after : List Definition}
    {old : Definition} {name : Text} (split : t.definitions = before ++ old :: after)
    (same : old.key = name.trim.lower) : (t.delete name).2.definitions = before ++ after := by
  obtain ⟨earlier, later⟩ := h.apart split
  rw [same] at earlier later
  have kept : ∀ ds : List Definition, (∀ e ∈ ds, e.key ≠ name.trim.lower) →
      ds.filter (fun e => e.key ≠ name.trim.lower) = ds := by
    intro ds others
    exact List.filter_eq_self.mpr fun e mem => by simpa using others e mem
  simp only [FunctionTable.delete, split, List.filter_append, kept before earlier]
  rw [List.filter_cons_of_neg (by simp [same]), kept after later]

theorem WellFormed.delete_split (h : t.WellFormed) {before after : List Definition}
    {old : Definition} {name : Text} (split : t.definitions = before ++ old :: after)
    (same : old.key = name.trim.lower) : t.delete name = (true, ⟨before ++ after⟩) := by
  have present : (t.delete name).1 = true := by simp [FunctionTable.delete, split, same]
  exact Prod.ext present (congrArg FunctionTable.mk (h.delete_removes split same))

theorem mem_delete {name : Text} {e : Definition} (mem : e ∈ t.definitions)
    (other : e.key ≠ name.trim.lower) : e ∈ (t.delete name).2.definitions :=
  List.mem_filter.mpr ⟨mem, by simpa using other⟩

theorem delete_keeps {name : Text} (absent : ∀ e ∈ t.definitions, e.key ≠ name.trim.lower) :
    (t.delete name).2 = t := by
  obtain ⟨ds⟩ := t
  simp only [delete, mk.injEq]
  exact List.filter_eq_self.mpr fun e mem => by simpa using absent e mem

theorem key_ne_of_mem_delete {name : Text} {e : Definition}
    (h : e ∈ (t.delete name).2.definitions) : e.key ≠ name.trim.lower := by
  simpa using List.of_mem_filter h

/-! ## Looking up -/

theorem WellFormed.value_eq_some_iff (h : t.WellFormed) {k : Text} {d : Definition} :
    t.view.value k = some d ↔ d ∈ t.definitions ∧ d.key = k := by
  constructor
  · intro found
    exact ⟨List.mem_of_find?_eq_some found, by simpa using List.find?_some found⟩
  · rintro ⟨mem, rfl⟩
    exact find?_key h.distinct mem

/-- No name is empty, so that nothing is found for the empty text either way. -/
theorem WellFormed.get?_eq (h : t.WellFormed) (name : Text) :
    t.get? name = t.view.value name.trim.lower := by
  rw [get?]
  split
  · rename_i empty
    have nil : name = [] := List.isEmpty_iff.mp empty
    subst nil
    symm
    rw [Option.eq_none_iff_forall_ne_some]
    intro d found
    obtain ⟨mem, key⟩ := h.value_eq_some_iff.mp found
    exact (h.named d mem).1 (Text.lower_eq_nil_iff.mp key)
  · rfl

/-- A definition that is stored is found by its name, and all others as before. -/
theorem WellFormed.get?_define (h : t.WellFormed) {d : Definition} (hd : d.Named) (name : Text) :
    (t.define d).get? name = if name.trim.lower = d.key then some d else t.get? name := by
  rw [(h.define hd).get?_eq, view_define, h.get?_eq]
  rfl

/-- What is not found cannot be deleted. -/
theorem WellFormed.delete_absent (h : t.WellFormed) {name : Text} (absent : t.get? name = none) :
    (t.delete name).1 = false := by
  rw [delete_present, ← h.get?_eq, absent]
  rfl

/-- Storing a definition that is there changes nothing. -/
theorem WellFormed.define_of_mem (h : t.WellFormed) {d : Definition} (mem : d ∈ t.definitions) :
    t.define d = t := by
  obtain ⟨before, after, split⟩ := List.append_of_mem mem
  have same := h.define_replaces split rfl
  rw [← split] at same
  exact congrArg FunctionTable.mk same

theorem WellFormed.entries_view (h : t.WellFormed) : t.view.entries = t.definitions := by
  have each : ∀ d ∈ t.definitions, t.view.value d.key = some d :=
    fun d mem => h.value_eq_some_iff.mpr ⟨mem, rfl⟩
  calc t.view.entries = t.definitions.filterMap fun d => t.view.value d.key :=
        List.filterMap_map
    _ = t.definitions.filterMap some := List.filterMap_congr each
    _ = t.definitions := List.filterMap_some

/-! ## Requests -/

/-- Names without arrows are kept along with what makes a table well-formed. -/
structure Sound (t : FunctionTable) : Prop where
  wellFormed : t.WellFormed
  noArrow : ∀ d ∈ t.definitions, ¬ d.name.HasArrow

theorem sound_empty : empty.Sound := ⟨wellFormed_empty, nofun⟩

theorem serve_define_ok {source : Text} {d : Definition} (h : Definition.read source = .ok d) :
    t.serve (.define source) = (.defined (.ok d), t.define d) := by
  rw [serve, defineFrom, h]
  rfl

theorem serve_define_error {source : Text} {e : DefinitionError}
    (h : Definition.read source = .error e) :
    t.serve (.define source) = (.defined (.error e), t) := by
  rw [serve, defineFrom, h]
  rfl

theorem Sound.serve (h : t.Sound) (request : TableRequest) : (t.serve request).2.Sound := by
  cases request with
  | define source =>
    cases read : Definition.read source with
    | error e => rwa [serve_define_error read]
    | ok d =>
      rw [serve_define_ok read]
      refine ⟨h.wellFormed.define (Definition.read_named read), fun e mem => ?_⟩
      rcases mem_insert mem with rfl | old
      · exact (Definition.proper_of_read read).isName.noArrow
      · exact h.noArrow e old
  | delete name =>
    exact ⟨h.wellFormed.delete name, fun e mem => h.noArrow e (List.mem_of_mem_filter mem)⟩
  | get | contains | size | names | all => exact h

/-- **A table answers as its map does,** and what becomes of it is what becomes of the map. -/
theorem WellFormed.serve_view (h : t.WellFormed) (request : TableRequest) :
    (t.serve request).1 = (t.view.serve request).1 ∧
      (t.serve request).2.view = (t.view.serve request).2 := by
  cases request with
  | define source =>
    cases read : Definition.read source with
    | error e => rw [serve_define_error read, OrderedMap.serve, read]; exact ⟨rfl, rfl⟩
    | ok d =>
      rw [serve_define_ok read, OrderedMap.serve, read]
      exact ⟨rfl, t.view_define d⟩
  | delete name => exact ⟨congrArg _ (t.delete_present name), t.view_delete name⟩
  | get name => exact ⟨congrArg _ (h.get?_eq name), rfl⟩
  | contains name =>
    refine ⟨?_, rfl⟩
    rw [serve, contains, h.get?_eq, OrderedMap.serve]
  | size =>
    refine ⟨?_, rfl⟩
    rw [serve, size, OrderedMap.serve, view, List.length_map]
  | names =>
    refine ⟨?_, rfl⟩
    rw [serve, names, OrderedMap.serve, h.entries_view]
  | all =>
    refine ⟨?_, rfl⟩
    rw [serve, OrderedMap.serve, h.entries_view]

/-- What is true of the definitions of a table, and what each request does to them. -/
structure Ordered (t : FunctionTable) : Prop where
  named : ∀ d ∈ t.definitions, d.name ≠ [] ∧ d.name.trim = d.name ∧ ¬ d.name.HasArrow
  distinct : (t.definitions.map fun d => d.name.lower).Nodup
  found : ∀ name d, t.get? name = some d ↔ d ∈ t.definitions ∧ d.name.lower = name.trim.lower
  replaced : ∀ source d before old after, Definition.read source = .ok d →
    t.definitions = before ++ old :: after → old.name.lower = d.name.lower →
    (t.serve (.define source)).2.definitions = before ++ d :: after
  appended : ∀ source d, Definition.read source = .ok d →
    (∀ e ∈ t.definitions, e.name.lower ≠ d.name.lower) →
    (t.serve (.define source)).2.definitions = t.definitions ++ [d]
  refused : ∀ source e, Definition.read source = .error e →
    t.serve (.define source) = (.defined (.error e), t)
  deleted : ∀ name,
    (t.delete name).1 = true ↔ ∃ d ∈ t.definitions, d.name.lower = name.trim.lower
  removed : ∀ name before old after, t.definitions = before ++ old :: after →
    old.name.lower = name.trim.lower → (t.delete name).2.definitions = before ++ after
  kept : ∀ name, (∀ d ∈ t.definitions, d.name.lower ≠ name.trim.lower) → (t.delete name).2 = t
  renewed : ∀ source d name, Definition.read source = .ok d → d.name.lower = name.trim.lower →
    ((t.delete name).2.serve (.define source)).2.definitions =
      (t.delete name).2.definitions ++ [d]

theorem Sound.ordered (h : t.Sound) : t.Ordered where
  named d mem := ⟨(h.wellFormed.named d mem).1, (h.wellFormed.named d mem).2, h.noArrow d mem⟩
  distinct := h.wellFormed.distinct
  found name d := by
    rw [h.wellFormed.get?_eq]
    exact h.wellFormed.value_eq_some_iff
  replaced source d before old after read split same := by
    rw [serve_define_ok read]
    exact h.wellFormed.define_replaces split same
  appended source d read fresh := by
    rw [serve_define_ok read]
    exact define_appends fresh
  refused source e read := serve_define_error read
  deleted name := by
    rw [delete_present, Option.isSome_iff_exists]
    exact exists_congr fun d => h.wellFormed.value_eq_some_iff
  removed name before old after split same := h.wellFormed.delete_removes split same
  kept name absent := delete_keeps absent
  renewed source d name read same := by
    rw [serve_define_ok read]
    refine define_appends fun e mem => ?_
    rw [show d.key = name.trim.lower from same]
    exact key_ne_of_mem_delete mem

theorem serveAll_view (h : t.Sound) (requests : List TableRequest) :
    (serveAll serve t requests).1 = (serveAll OrderedMap.serve t.view requests).1 ∧
      (serveAll serve t requests).2.view = (serveAll OrderedMap.serve t.view requests).2 ∧
      (serveAll serve t requests).2.Sound := by
  induction requests generalizing t with
  | nil => exact ⟨rfl, rfl, h⟩
  | cons request rest ih =>
    obtain ⟨reply, after⟩ := h.wellFormed.serve_view request
    obtain ⟨replies, last, sound⟩ := ih (h.serve request)
    rw [after] at replies last
    exact ⟨by simp only [serveAll, reply, replies], last, sound⟩

/-- **A function table is an ordered map.** Whatever it has been asked for since it was empty, it
has answered as the map of its names in small letters does, it holds what that map holds, and the
names, the order and the next request are as `Ordered` says. -/
theorem serveAll_ordered (requests : List TableRequest) :
    let (replies, t) := serveAll serve empty requests
    let (expected, m) := serveAll OrderedMap.serve OrderedMap.empty requests
    replies = expected ∧ t.view = m ∧ t.definitions = m.entries ∧ t.Ordered := by
  obtain ⟨replies, last, sound⟩ := serveAll_view sound_empty requests
  exact ⟨replies, last, by rw [← sound.wellFormed.entries_view, last]; rfl, sound.ordered⟩

end FunctionTable
end MacroShell
