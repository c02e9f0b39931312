import QueueDepth.Csv
import QueueDepth.Number.Unsigned
import QueueDepth.Text.Blank
import QueueDepth.Text.Quoted
import QueueDepth.Text.Utf8
import QueueDepth.Trace

/-!
# Reading traces

A trace is written as comma-separated rows under a header that names the columns. Columns may stand
in any order and columns that are not needed are skipped. Either every row is read or the first row
with a defect rejects the whole text.

* `Event.ofFields`: the event of one row, or the first defect in it.
* `Trace.ofCsv`: the trace of a byte text.
-/

namespace QueueDepth

/-! ## Columns -/

/-- The columns a trace must have. -/
inductive Column where
  | timestamp
  | actor
  | generation
  | thread
  | kind
  deriving DecidableEq

/-- The name of a column in the header. -/
def Column.name : Column → String
  | timestamp => "timestamp"
  | actor => "actor_id"
  | generation => "gen_id"
  | thread => "thread_id"
  | kind => "eventType"

/-- Where the needed columns stand in a row. -/
structure Columns where
  timestamp : Nat
  actor : Nat
  generation : Nat
  thread : Nat
  kind : Nat
  deriving DecidableEq

/-! ## Defects -/

/-- What can be wrong with a trace text. -/
inductive Defect where
  /-- The header lacks a needed column. -/
  | missingColumn (column : Column)
  /-- A row has another number of fields than the header. -/
  | uneven (start : Csv.Position) (found expected : Nat)
  /-- A field of the row is not UTF-8, from the byte at index `byte` on. -/
  | notUtf8 (start : Csv.Position) (field byte : Nat)
  /-- A column that must be filled is blank. -/
  | blank (column : Column)
  /-- A column of numbers holds something else. -/
  | notANumber (column : Column) (text : String)
  /-- An event that belongs to an actor names none. -/
  | noActor (kind : Kind)
  /-- The text could not be read at all. -/
  | unreadable (reason : String)
  deriving DecidableEq

/-- The wording of a defect. -/
def Defect.reason : Defect → String
  | missingColumn column => "missing required column `" ++ column.name ++ "`"
  | uneven start found expected =>
    "CSV error: record " ++ start.record.repr ++ " (line: " ++ start.line.repr ++ ", byte: "
      ++ start.byte.repr ++ "): found record with " ++ found.repr
      ++ " fields, but the previous record has " ++ expected.repr ++ " fields"
  | notUtf8 start field byte =>
    "CSV parse error: record " ++ start.record.repr ++ " (line " ++ start.line.repr ++ ", field: "
      ++ field.repr ++ ", byte: " ++ start.byte.repr
      ++ "): invalid utf-8: invalid UTF-8 in field " ++ field.repr ++ " near byte index "
      ++ byte.repr
  | blank column => "`" ++ column.name ++ "` is empty"
  | notANumber column text =>
    "`" ++ column.name ++ "` is not a non-negative integer: "
      ++ String.ofList (Text.quoted text.toList)
  | noActor kind =>
    "`" ++ Column.actor.name ++ "` is empty but " ++ kind.name ++ " events belong to an actor"
  | unreadable reason => reason

/-- A trace text that is rejected, and the line of the row at fault. -/
structure Malformed where
  line : Nat
  defect : Defect
  deriving DecidableEq

/-- The message that reports a rejected trace. -/
def Malformed.message (malformed : Malformed) : String :=
  "malformed record at line " ++ malformed.line.repr ++ ": " ++ malformed.defect.reason

/-! ## Rows -/

/-- The texts of the fields of a row, without blank margins. -/
def fieldTexts (start : Csv.Position) (fields : List (List UInt8)) :
    Except Malformed (List String) :=
  fields.zipIdx.mapM fun (bytes, field) =>
    match Text.Utf8.decode bytes with
    | .ok text => .ok (String.ofList (Text.trim text))
    | .error byte => .error ⟨start.line, .notUtf8 start field byte⟩

/-- Find the needed columns in a header. The first of two equal names counts. -/
def Columns.ofHeader (header : List String) : Except Malformed Columns := do
  let find (column : Column) : Except Malformed Nat :=
    match header.findIdx? (· = column.name) with
    | some place => .ok place
    | none => .error ⟨1, .missingColumn column⟩
  let timestamp ← find .timestamp
  let actor ← find .actor
  let generation ← find .generation
  let thread ← find .thread
  let kind ← find .kind
  return { timestamp, actor, generation, thread, kind }

/-- A number that may be left out. -/
def numberField (line : Nat) (column : Column) (text : String) : Except Malformed (Option Nat) :=
  if text.isEmpty then .ok none
  else
    match Number.readUnsigned text.toList with
    | .ok value => .ok (some value)
    | .error _ => .error ⟨line, .notANumber column text⟩

/-- The event of a row that stands on `line`. Its columns are checked in the order timestamp, kind,
actor, generation. -/
def Event.ofFields (columns : Columns) (line : Nat) (fields : List String) :
    Except Malformed Event := do
  let field (place : Nat) : String := fields.getD place ""
  let some timestamp ← numberField line .timestamp (field columns.timestamp)
    | .error ⟨line, .blank .timestamp⟩
  let name := field columns.kind
  if name.isEmpty then
    .error ⟨line, .blank .kind⟩
  let kind := Kind.ofName name
  let actor ← numberField line .actor (field columns.actor)
  if actor.isNone && kind.needsActor then
    .error ⟨line, .noActor kind⟩
  let generation ← numberField line .generation (field columns.generation)
  return { timestamp, actor, generation, thread := field columns.thread, kind }

/-- The event of a row under a header of `width` fields. -/
def Event.ofRow (columns : Columns) (width : Nat) (row : Csv.Row) : Except Malformed Event := do
  if row.fields.length ≠ width then
    .error ⟨row.start.line, .uneven row.start row.fields.length width⟩
  let texts ← fieldTexts row.start (row.fields.map Text.trimAscii)
  Event.ofFields columns row.start.line texts

/-- The events of rows, the first of which is the header. A text without rows has an empty header. -/
def Event.ofRows (rows : List Csv.Row) : Except Malformed (List Event) :=
  match rows with
  | [] => do
    let columns ← Columns.ofHeader []
    [].mapM (Event.ofRow columns 0)
  | header :: body => do
    let names ← fieldTexts header.start header.fields
    let columns ← Columns.ofHeader names
    body.mapM (Event.ofRow columns header.fields.length)

/-- The trace that a byte text holds. -/
def Trace.ofCsv (text : List UInt8) : Except Malformed Trace :=
  (Event.ofRows (Csv.rows text)).map Trace.ofLog

end QueueDepth
