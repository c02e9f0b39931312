import QueueDepth.Number.Unsigned
import QueueDepth.Settings
import QueueDepth.Text.Quoted
import QueueDepth.Toml.Document
import QueueDepth.Toml.Excerpt

/-!
# Reading settings

Settings are written as a TOML document. Its fields are read in the order in which they stand, and the
first one that does not fit rejects the document. A field that is not there keeps its default, and
there are no other fields.

A name among a few is written as a string; a table with that name as its only key and nothing below it
says the same.

* `Settings.ofFields`: the settings in the fields of a document.
* `Settings.ofToml`: the settings in a text.
-/

namespace QueueDepth

open Text (Place Placed)
open Toml (Value)

/-! ## Mismatches -/

/-- What is wrong with a part of a document that is well-formed. -/
inductive Mismatch where
  /-- There is no such field. -/
  | unknownField (name : List Char)
  /-- A name is none of the expected ones. -/
  | unknownName (name : List Char) (expected : List String)
  /-- A value is of another kind than the expected one. -/
  | kind (found : Value) (expected : String)
  /-- A number is below zero. -/
  | negative (value : Int)
  /-- A name is expected, but there is neither a string nor a table. -/
  | noString
  /-- A name is expected, but the table has no key. -/
  | noKey
  /-- A name is expected, but the table has several keys. -/
  | manyKeys
  /-- There is something below a name. -/
  | filled (found : Value)

/-- What an integer is called. -/
def describeInteger (value : Int) : Except String String :=
  let shown := "integer `" ++ toString value ++ "`"
  if -Int.pow 2 63 ≤ value ∧ value < Int.pow 2 64 then .ok shown
  else if -Int.pow 2 127 ≤ value ∧ value < Int.pow 2 127 then .ok (shown ++ " as i128")
  else if 0 ≤ value ∧ value < Int.pow 2 128 then .ok (shown ++ " as u128")
  else .error "integer number overflowed"

/-- What a value is called, unless it is a number that is too large to be called anything. -/
def describe : Value → Except String String
  | .text content => .ok ("string " ++ String.ofList (Text.quoted content))
  | .integer value => describeInteger value
  | .real value =>
    if value.overflows then .error "floating-point number overflowed"
    else .ok ("floating point `" ++ value.nearest.text ++ "`")
  | .boolean value => .ok ("boolean `" ++ toString value ++ "`")
  | .moment => .ok "map"
  | .array _ => .ok "sequence"
  | .tables _ => .ok "sequence"
  | .table _ _ => .ok "map"

/-- Names in backticks, the last two parted by "or". -/
def alternatives : List String → String
  | [first, second] => "`" ++ first ++ "` or `" ++ second ++ "`"
  | names => "one of " ++ String.intercalate ", " (names.map fun name => "`" ++ name ++ "`")

/-- The names of the fields. -/
def Settings.fieldNames : List String :=
  ["actors", "format", "on-violation"]

/-- What is wrong with something below a name. -/
def filledMessage : Value → String
  | .text _ => "expected table, found string"
  | .integer _ => "expected table, found integer"
  | .real _ => "expected table, found float"
  | .boolean _ => "expected table, found boolean"
  | .moment => "expected table, found datetime"
  | .array _ => "expected empty array"
  | .tables _ => "expected empty array"
  | .table _ _ => "expected empty table"

/-- The wording of a mismatch. -/
def Mismatch.message : Mismatch → String
  | unknownField name =>
    "unknown field `" ++ String.ofList name ++ "`, expected " ++ alternatives Settings.fieldNames
  | unknownName name expected =>
    "unknown variant `" ++ String.ofList name ++ "`, expected " ++ alternatives expected
  | kind found expected =>
    match describe found with
    | .ok description => "invalid type: " ++ description ++ ", expected " ++ expected
    | .error message => message
  | negative value => "invalid value: integer `" ++ toString value ++ "`, expected u64"
  | noString => "wanted string or table"
  | noKey => "wanted exactly 1 element, found 0 elements"
  | manyKeys => "wanted exactly 1 element, more than 1 element"
  | filled found => filledMessage found

/-! ## Values -/

/-- The value of something, or a mismatch somewhere in it. -/
abbrev Fitting (α : Type) := Except (Placed Mismatch) α

/-- Read an actor id. -/
def readActor (value : Placed Value) : Fitting Nat :=
  match value.item with
  | .integer n =>
    if 0 ≤ n ∧ n < Number.unsignedBound then .ok n.toNat
    else if -Int.pow 2 63 ≤ n ∧ n < 0 then .error ⟨value.place, .negative n⟩
    else .error ⟨value.place, .kind value.item "u64"⟩
  | item => .error ⟨value.place, .kind item "u64"⟩

/-- Read a list of actor ids. -/
def readActors (value : Placed Value) : Fitting (List Nat) :=
  match value.item with
  | .array items => items.mapM readActor
  | .tables items =>
    items.mapM fun table => readActor ⟨table.place, .table .header table.item⟩
  | item => .error ⟨value.place, .kind item "a sequence"⟩

/-- Find what a name stands for. -/
def findName {α : Type} (choices : List (String × α)) (place : Place) (name : List Char) : Fitting α :=
  match choices.find? (·.1.toList = name) with
  | some (_, choice) => .ok choice
  | none => .error ⟨place, .unknownName name (choices.map Prod.fst)⟩

/-- Make sure that there is nothing below a name. -/
def checkEmpty (value : Placed Value) : Fitting Unit :=
  match value.item with
  | .array [] => .ok ()
  | .table _ [] => .ok ()
  | item => .error ⟨value.place, .filled item⟩

/-- Read a name among a few. -/
def readName {α : Type} (choices : List (String × α)) (value : Placed Value) : Fitting α :=
  match value.item with
  | .text name => findName choices value.place name
  | .table _ [] => .error ⟨value.place, .noKey⟩
  | .table _ [(key, below)] => do
    let choice ← findName choices key.place key.item
    checkEmpty below
    return choice
  | .table _ _ => .error ⟨value.place, .manyKeys⟩
  | _ => .error ⟨value.place, .noString⟩

/-! ## Documents -/

/-- Read a field. -/
def Settings.readField (settings : Settings) (field : Toml.Field) : Fitting Settings :=
  let (key, value) := field
  if key.item = "actors".toList then do
    return { settings with actors := some (← readActors value) }
  else if key.item = "format".toList then do
    return { settings with
      format := ← readName (Format.formats.map fun format => (format.name, format)) value }
  else if key.item = "on-violation".toList then do
    return { settings with
      onViolation := ← readName (Policy.policies.map fun policy => (policy.name, policy)) value }
  else .error ⟨key.place, .unknownField key.item⟩

/-- The settings in the fields of a document. -/
def Settings.ofFields (fields : Toml.Fields) : Fitting Settings :=
  fields.foldlM Settings.readField {}

/-- Why a text holds no settings. -/
inductive Rejection where
  /-- The text is no TOML document. -/
  | illFormed
  /-- The text is a document, but a part of it does not fit. -/
  | unfit (text : List Char) (fields : Toml.Fields) (mismatch : Placed Mismatch)

namespace Rejection

/-- The mismatch that a text is rejected for, if it holds a document all of whose numbers fit in
64 bits. -/
def mismatch? : Rejection → Option Mismatch
  | illFormed => none
  | unfit _ fields mismatch => if Toml.fieldsFit fields then some mismatch.item else none

/-- The report of a rejection. -/
def message : Rejection → String
  | illFormed => "TOML parse error"
  | unfit text _ mismatch => Toml.excerpt text mismatch.place mismatch.item.message

end Rejection

/-- The settings in a text. -/
def Settings.ofToml (text : List Char) : Except Rejection Settings :=
  match Toml.document text with
  | none => .error .illFormed
  | some fields => (Settings.ofFields fields).mapError (.unfit text fields)

end QueueDepth
