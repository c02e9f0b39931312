import Mathlib.Data.List.Basic
import QueueDepth.Toml.Document

/-!
# The top-level keys of a document

Every statement of a document begins at a top-level key: that of its path, or, for a pair under a header,
that of the header. No statement takes a top-level key away, so the document has a field for each key that a
statement begins at, and no others (`mem_names_ofStatements`).
-/

namespace QueueDepth.Toml

open Text (Place Placed)

variable {name : List Char} {fields result : Fields}

/-- The names of the fields of a table. -/
def Fields.names (fields : Fields) : List (List Char) :=
  fields.map fun field => field.1.item

/-! ## Changes of a table -/

namespace Fields

theorem names_changeAt {change : Value → Option Value}
    (changed : changeAt name change fields = some result) : result.names = fields.names := by
  induction fields generalizing result with
  | nil => cases changed
  | cons field rest ih =>
    obtain ⟨key, value⟩ := field
    simp only [changeAt] at changed
    split at changed
    · obtain ⟨item, _, same⟩ := Option.bind_eq_some_iff.mp changed
      cases same
      rfl
    · obtain ⟨others, later, same⟩ := Option.bind_eq_some_iff.mp changed
      cases same
      rw [names, List.map_cons, ← names, ih later]
      rfl

theorem isSome_find?_iff : (fields.find? name).isSome = true ↔ name ∈ fields.names := by
  simp [find?, names, List.find?_isSome]

/-- A field that is there keeps its name. -/
theorem mem_names_changeAt {key : Key} {change : Value → Option Value}
    (there : (fields.find? key.item).isSome = true)
    (changed : changeAt key.item change fields = some result) :
    name ∈ result.names ↔ name ∈ fields.names ∨ name = key.item := by
  have known : name = key.item → name ∈ fields.names := by
    intro same
    rw [same]
    exact isSome_find?_iff.mp there
  rw [names_changeAt changed, or_iff_left_of_imp known]

/-- A field that is added adds its name. -/
theorem mem_names_concat {key : Key} {value : Placed Value} :
    name ∈ names (fields ++ [(key, value)]) ↔ name ∈ fields.names ∨ name = key.item := by
  rw [names, List.map_append, List.mem_append]
  exact or_congr_right List.mem_singleton

/-- A path that begins at a key makes a field of it, if there is none. -/
theorem mem_names_change {road : Road} {form : Form} {edit : Form → Fields → Option Fields} {key : Key}
    {path : List Key} (changed : change road form edit (key :: path) fields = some result) :
    name ∈ result.names ↔ name ∈ fields.names ∨ name = key.item := by
  rw [change] at changed
  split at changed
  · rename_i there
    exact mem_names_changeAt there changed
  · obtain ⟨inner, _, same⟩ := Option.bind_eq_some_iff.mp changed
    cases same
    exact mem_names_concat

/-- An edit at the end of a path begins where the path begins, or where it does itself. -/
theorem mem_names_changeFrom {road : Road} {form : Form} {edit : Form → Fields → Option Fields}
    {path : List Key} {root : Key}
    (edits : ∀ result, edit form fields = some result →
      (name ∈ result.names ↔ name ∈ fields.names ∨ name = root.item))
    (changed : change road form edit path fields = some result) :
    name ∈ result.names ↔ name ∈ fields.names ∨ name = (path.headD root).item := by
  cases path with
  | nil => exact edits result changed
  | cons key path => exact mem_names_change changed

theorem mem_names_add {key : Key} {value : Placed Value} (added : add key value fields = some result) :
    name ∈ result.names ↔ name ∈ fields.names ∨ name = key.item := by
  unfold add at added
  split at added
  · cases added
  · cases added
    exact mem_names_concat

end Fields

/-- The key that a path begins at. -/
def Path.root (path : Path) : Key :=
  path.front.headD path.last

namespace Fields

theorem mem_names_insert {path : Path} {value : Placed Value}
    (inserted : insert path value fields = some result) :
    name ∈ result.names ↔ name ∈ fields.names ∨ name = path.root.item := by
  obtain ⟨front, last⟩ := path
  unfold insert at inserted
  cases front with
  | nil => exact mem_names_add inserted
  | cons key front => exact mem_names_change inserted

/-- A table is opened under its key, wherever its field then stands. -/
theorem mem_names_open? {key : Key} {place : Place} (opened : open? key place fields = some result) :
    name ∈ result.names ↔ name ∈ fields.names ∨ name = key.item := by
  unfold open? at opened
  split at opened
  · cases opened
    exact mem_names_concat
  · cases opened
    -- Others keep their names, and the field itself only moves.
    have others : names (fields.filter fun field => field.1.item ≠ key.item) =
        fields.names.filter fun name => name ≠ key.item := by
      rw [names, names, List.filter_map]
      rfl
    rw [mem_names_concat, others, List.mem_filter, decide_eq_true_eq]
    by_cases same : name = key.item
    · simp [same]
    · simp [same]
  · cases opened

theorem mem_names_element? {key : Key} {place : Place}
    (opened : element? key place fields = some result) :
    name ∈ result.names ↔ name ∈ fields.names ∨ name = key.item := by
  unfold element? at opened
  split at opened
  · rename_i there
    exact mem_names_changeAt there opened
  · cases opened
    exact mem_names_concat

end Fields

/-! ## Statements -/

/-- The path of the table that is open behind a statement. -/
def Statement.opens (current : List Key) : Statement → List Key
  | .pair _ _ => current
  | .table path _ => path.keys
  | .element path _ => path.keys

/-- The top-level key that a statement begins at, where the table of a path is open. -/
def Statement.root (current : List Key) : Statement → Key
  | .pair path _ => current.headD path.root
  | .table path _ => path.root
  | .element path _ => path.root

/-- The top-level keys that statements begin at. -/
def rootsFrom (current : List Key) : List Statement → List (List Char)
  | [] => []
  | statement :: rest =>
    (statement.root current).item :: rootsFrom (statement.opens current) rest

/-- The top-level keys that the statements of a document begin at. -/
def roots (statements : List Statement) : List (List Char) :=
  rootsFrom [] statements

/-- A statement makes a field of the key that it begins at, if there is none. -/
theorem mem_names_apply {draft next : Draft} {statement : Statement}
    (applied : draft.apply statement = some next) :
    (name ∈ next.fields.names ↔
      name ∈ draft.fields.names ∨ name = (statement.root draft.current).item) ∧
    next.current = statement.opens draft.current := by
  cases statement with
  | pair path value =>
    obtain ⟨fields, changed, same⟩ := Option.bind_eq_some_iff.mp applied
    cases same
    exact ⟨Fields.mem_names_changeFrom (fun _ => Fields.mem_names_insert) changed, rfl⟩
  | table path place =>
    obtain ⟨fields, changed, same⟩ := Option.bind_eq_some_iff.mp applied
    cases same
    exact ⟨Fields.mem_names_changeFrom (fun _ => Fields.mem_names_open?) changed, rfl⟩
  | element path place =>
    obtain ⟨fields, changed, same⟩ := Option.bind_eq_some_iff.mp applied
    cases same
    exact ⟨Fields.mem_names_changeFrom (fun _ => Fields.mem_names_element?) changed, rfl⟩

theorem mem_names_foldlM {draft next : Draft} {statements : List Statement}
    (run : statements.foldlM Draft.apply draft = some next) :
    name ∈ next.fields.names ↔
      name ∈ draft.fields.names ∨ name ∈ rootsFrom draft.current statements := by
  induction statements generalizing draft with
  | nil =>
    cases run
    simp [rootsFrom]
  | cons statement rest ih =>
    rw [List.foldlM_cons] at run
    obtain ⟨middle, applied, later⟩ := Option.bind_eq_some_iff.mp run
    have step : (name ∈ middle.fields.names ↔
        name ∈ draft.fields.names ∨ name = (statement.root draft.current).item) ∧
        middle.current = statement.opens draft.current := mem_names_apply applied
    rw [ih later, step.1, step.2, rootsFrom, List.mem_cons, or_assoc]

/-- A document has a field for each key that a statement begins at, and no others. -/
theorem mem_names_ofStatements {statements : List Statement}
    (made : Fields.ofStatements statements = some fields) :
    name ∈ fields.names ↔ name ∈ roots statements := by
  obtain ⟨draft, run, same⟩ := Option.bind_eq_some_iff.mp made
  cases same
  have names : name ∈ draft.fields.names ↔ name ∈ Fields.names [] ∨ name ∈ rootsFrom [] statements :=
    mem_names_foldlM run
  simpa [Fields.names, roots] using names

end QueueDepth.Toml
