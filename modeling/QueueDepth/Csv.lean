/-!
# Comma-separated rows

A byte text is cut into rows of fields. Fields end at commas and rows at line feeds or carriage
returns. A field that begins with a quotation mark runs to the next lone one; inside it a mark is
written twice, and commas and line ends stand for themselves. Empty lines are no rows.

Every row knows where its reading began: right behind the byte that ended the row before it. Empty
lines in between, and the line feed of a pair of carriage return and line feed, therefore lie behind
that place. Only line feeds count as lines.

* `rows`: the rows of a text, each with its place.
-/

namespace QueueDepth.Csv

/-- A place in a text. -/
structure Position where
  /-- How many rows came before. -/
  record : Nat
  /-- The line, counted from one. -/
  line : Nat
  /-- How many bytes came before. -/
  byte : Nat
  deriving DecidableEq

namespace Position

/-- Where every text begins. -/
def start : Position := ⟨0, 1, 0⟩

/-- The place behind one more byte. -/
def after (here : Position) (byte : UInt8) : Position :=
  { here with
    line := if byte = 0x0A then here.line + 1 else here.line
    byte := here.byte + 1 }

/-- The place behind the last byte of a row. -/
def nextRecord (here : Position) : Position :=
  { here with record := here.record + 1 }

end Position

/-- A row as it stands in the text, its fields without their quotation marks. -/
structure Row where
  /-- Where the reading of the row began. -/
  start : Position
  fields : List (List UInt8)
  deriving DecidableEq

/-! ## Reading -/

/-- What the reader stands in. -/
inductive Phase where
  /-- Between two rows; empty lines are skipped here. -/
  | between
  /-- At the first byte of a field. -/
  | fieldStart
  /-- In a field without quotation marks, or behind the closing one. -/
  | plain
  /-- Between quotation marks. -/
  | quoted
  /-- Behind a mark that closes the field, or is the first half of a doubled one. -/
  | quoteSeen
  deriving DecidableEq

/-- What a byte does to the row being read. -/
inductive Step where
  /-- The byte stands outside all rows. -/
  | skip
  /-- The byte belongs to the field. -/
  | keep (next : Phase)
  /-- The byte is a quotation mark around the field. -/
  | mark (next : Phase)
  /-- The byte ends the field. -/
  | endField
  /-- The byte ends the row. -/
  | endRow
  deriving DecidableEq

/-- Whether a byte ends a line. -/
def isLineEnd (byte : UInt8) : Bool :=
  byte == 0x0A || byte == 0x0D

/-- A comma. -/
def comma : UInt8 := 0x2C

/-- A quotation mark. -/
def quote : UInt8 := 0x22

/-- A byte of a field outside quotation marks. -/
def unquotedStep (byte : UInt8) : Step :=
  if byte == comma then .endField
  else if isLineEnd byte then .endRow
  else .keep .plain

/-- The first byte of a field. -/
def fieldStep (byte : UInt8) : Step :=
  if byte == quote then .mark .quoted else unquotedStep byte

/-- What a byte does in each phase. -/
def Phase.step : Phase → UInt8 → Step
  | between, byte => if isLineEnd byte then .skip else fieldStep byte
  | fieldStart, byte => fieldStep byte
  | plain, byte => unquotedStep byte
  | quoted, byte => if byte == quote then .mark .quoteSeen else .keep .quoted
  | quoteSeen, byte => if byte == quote then .keep .quoted else unquotedStep byte

/-- A row that is being read. Its fields, and the bytes of the last one, are held latest first. -/
structure Draft where
  start : Position
  fields : List (List UInt8)
  field : List UInt8
  deriving DecidableEq

namespace Draft

/-- A row of which nothing is read yet. -/
def blank (start : Position) : Draft := ⟨start, [], []⟩

/-- One more byte in the last field. -/
def keep (draft : Draft) (byte : UInt8) : Draft :=
  { draft with field := byte :: draft.field }

/-- The last field ends and another begins. -/
def endField (draft : Draft) : Draft :=
  { draft with fields := draft.field.reverse :: draft.fields, field := [] }

/-- The row that ends here. -/
def toRow (draft : Draft) : Row :=
  ⟨draft.start, draft.endField.fields.reverse⟩

end Draft

/-- The rows that the remaining bytes complete. The end of the text also ends a row. -/
def rowsFrom (phase : Phase) (draft : Draft) (here : Position) : List UInt8 → List Row
  | [] =>
    match phase with
    | .between => []
    | _ => [draft.toRow]
  | byte :: rest =>
    let next := here.after byte
    match phase.step byte with
    | .skip => rowsFrom .between draft next rest
    | .keep phase => rowsFrom phase (draft.keep byte) next rest
    | .mark phase => rowsFrom phase draft next rest
    | .endField => rowsFrom .fieldStart draft.endField next rest
    | .endRow => draft.toRow :: rowsFrom .between (.blank next.nextRecord) next.nextRecord rest

/-- The bytes that a text may begin with to say that it is UTF-8. -/
def byteOrderMark : List UInt8 := [0xEF, 0xBB, 0xBF]

/-- The rows of a text. A byte order mark at its head belongs to no field, but its bytes count. -/
def rows (text : List UInt8) : List Row :=
  if byteOrderMark.isPrefixOf text then
    rowsFrom .between (.blank .start) { Position.start with byte := byteOrderMark.length }
      (text.drop byteOrderMark.length)
  else
    rowsFrom .between (.blank .start) .start text

end QueueDepth.Csv
