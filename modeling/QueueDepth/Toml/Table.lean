import QueueDepth.Toml.Value

/-!
# Tables of TOML documents

How the statements of a document fill its tables. No key may be given twice. A header may follow its
path through every table but those between braces, and through the last element of an array of tables.
A dotted key may follow its path only through tables that dotted keys made, or that lie on the path
of a header; from then on, no header can open such a table.

* `Fields.change`: changes the table at the end of a path.
* `Fields.insert`: adds a value under a dotted key.
* `Fields.ofPairs`, `Fields.ofStatements`: the table that pairs or statements make.
-/

namespace QueueDepth.Toml

open Text (Place Placed)

/-- Keys that are parted by dots. -/
structure Path where
  front : List Key
  last : Key

/-- A path with all its keys. -/
def Path.keys (path : Path) : List Key :=
  path.front ++ [path.last]

/-- The fields of a table, in the order in which they were made. -/
abbrev Fields := List Field

/-- What a path belongs to. -/
inductive Road where
  | header
  | dotted
  deriving DecidableEq

/-- The form of the tables that a path makes. -/
def Road.made : Road → Form
  | header => .passed
  | dotted => .dotted

/-- Whether a path may lead through a table. -/
def Road.passes : Road → Form → Bool
  | header, form => form ≠ .inlined
  | dotted, form => form = .passed || form = .dotted

/-- The form of a table behind a path that leads through it. -/
def Road.leaves : Road → Form → Form
  | header, form => form
  | dotted, _ => .dotted

/-- Change the last item of a list, if there is one. -/
def changeLast {α : Type} (change : α → Option α) : List α → Option (List α)
  | [] => none
  | [item] => do return [← change item]
  | item :: items => do return item :: (← changeLast change items)

/-- Change the table that a value is, or the last of the tables that it holds. -/
def Value.change (road : Road) (change : Form → Fields → Option Fields) : Value → Option Value
  | .table form fields => do
    if road.passes form then return .table (road.leaves form) (← change (road.leaves form) fields)
    else none
  | .tables items => do
    let changed (table : Placed Fields) := do return { table with item := ← change .header table.item }
    return .tables (← changeLast changed items)
  | _ => none

namespace Fields

/-- The field of a name. -/
def find? (fields : Fields) (name : List Char) : Option Field :=
  List.find? (fun field => field.1.item = name) fields

/-- Change the value of a name that is there. -/
def changeAt (name : List Char) (change : Value → Option Value) : Fields → Option Fields
  | [] => none
  | (key, value) :: fields => do
    if key.item = name then return (key, { value with item := ← change value.item }) :: fields
    else return (key, value) :: (← changeAt name change fields)

/-- Change the table at the end of a path. Tables on the path that are not there are made. The change
is told how the table came to be; `form` is that of the table where the path starts. -/
def change (road : Road) (form : Form) (edit : Form → Fields → Option Fields) :
    List Key → Fields → Option Fields
  | [], fields => edit form fields
  | key :: path, fields =>
    if (fields.find? key.item).isSome then
      changeAt key.item
        (Value.change road fun form fields => change road form edit path fields) fields
    else do
      let inner ← change road road.made edit path []
      return fields ++ [(key, ⟨key.place, .table road.made inner⟩)]

/-- Add a field that is not there. -/
def add (key : Key) (value : Placed Value) (fields : Fields) : Option Fields :=
  if (fields.find? key.item).isSome then none else some (fields ++ [(key, value)])

/-- Add a value under a dotted key. -/
def insert (path : Path) (value : Placed Value) (fields : Fields) : Option Fields :=
  match path.front with
  | [] => fields.add path.last value
  | front =>
    -- The form where the path starts has no say, for the path is not empty.
    fields.change .dotted .dotted
      (fun form inner => if form = .dotted then inner.add path.last value else none) front

/-- The fields that pairs make. -/
def ofPairs (pairs : List (Path × Placed Value)) : Option Fields :=
  pairs.foldlM (fun fields (path, value) => fields.insert path value) []

/-- Add the table of a header. If it lies on the path of an earlier one, it keeps what is in it, but
takes its place at the end. -/
def open? (key : Key) (place : Place) (fields : Fields) : Option Fields :=
  match fields.find? key.item with
  | none => some (fields ++ [(key, ⟨place, .table .header []⟩)])
  | some (_, ⟨_, .table .passed inner⟩) =>
    let others := fields.filter fun field => field.1.item ≠ key.item
    some (others ++ [(key, ⟨place, .table .header inner⟩)])
  | some _ => none

/-- Add an element to an array of tables. -/
def element? (key : Key) (place : Place) (fields : Fields) : Option Fields :=
  if (fields.find? key.item).isSome then
    fields.changeAt key.item fun
      | .tables items => some (.tables (items ++ [⟨place, []⟩]))
      | _ => none
  else some (fields ++ [(key, ⟨place, .tables [⟨place, []⟩]⟩)])

end Fields

/-! ## Statements -/

/-- A statement of a document. -/
inductive Statement where
  /-- A key and its value, for the table that is open. -/
  | pair (path : Path) (value : Placed Value)
  /-- The header of a table, which it opens. -/
  | table (path : Path) (place : Place)
  /-- The header of an element of an array of tables, which it opens. -/
  | element (path : Path) (place : Place)

/-- A document of which some statements are read. -/
structure Draft where
  fields : Fields
  /-- The path of the table that is open. -/
  current : List Key

/-- Carry out a statement. -/
def Draft.apply (draft : Draft) : Statement → Option Draft
  | .pair path value => do
    let fields ← draft.fields.change .header .header (fun _ inner => inner.insert path value)
      draft.current
    return { draft with fields }
  | .table path place => do
    let fields ← draft.fields.change .header .header (fun _ inner => inner.open? path.last place)
      path.front
    return ⟨fields, path.keys⟩
  | .element path place => do
    let fields ← draft.fields.change .header .header (fun _ inner => inner.element? path.last place)
      path.front
    return ⟨fields, path.keys⟩

/-- The fields that statements make. -/
def Fields.ofStatements (statements : List Statement) : Option Fields := do
  let draft ← statements.foldlM Draft.apply ⟨[], []⟩
  return draft.fields

end QueueDepth.Toml
