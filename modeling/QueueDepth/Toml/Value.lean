import QueueDepth.Number.Binary64
import QueueDepth.Text.Place

/-!
# Values of TOML documents

A document is a table of values. Keys and values know where they stand in the document, and a table
knows how it came to be, because that decides what may still be added to it.
-/

namespace QueueDepth.Toml

open Text (Place Placed)

/-- A key, without quotation marks. -/
abbrev Key := Placed (List Char)

/-- A floating-point number as it is written. -/
inductive Real where
  | decimal (value : Number.Decimal)
  | infinite (negative : Bool)
  | notANumber
  deriving DecidableEq

/-- The number of 64 bits that is nearest. -/
def Real.nearest : Real → Number.Binary64
  | decimal value => .ofDecimal value
  | infinite negative => .infinite negative
  | notANumber => .notANumber

/-- How a table came to be. -/
inductive Form where
  /-- By a header of its own. Elements of arrays of tables also have this form. -/
  | header
  /-- On the path of a header. -/
  | passed
  /-- On the path of a key. -/
  | dotted
  /-- Between braces. -/
  | inlined
  deriving DecidableEq

/-- A value of a document. -/
inductive Value where
  | text (content : List Char)
  | integer (value : Int)
  | real (value : Real)
  | boolean (value : Bool)
  /-- A date, a time or both. -/
  | moment
  /-- An array between brackets. -/
  | array (items : List (Placed Value))
  /-- An array of tables, each under a header of its own. -/
  | tables (items : List (Placed (List (Key × Placed Value))))
  | table (form : Form) (fields : List (Key × Placed Value))

/-- A key and its value. -/
abbrev Field := Key × Placed Value

/-! ## Ranges -/

/-- Whether an integer is one of 64 bits with a sign. -/
def isInteger64 (value : Int) : Bool :=
  -Int.pow 2 63 ≤ value && value < Int.pow 2 63

/-- Whether a number is too large for 64 bits. -/
def Real.overflows : Real → Bool
  | decimal value =>
    match Number.Binary64.ofDecimal value with
    | .infinite _ => true
    | _ => false
  | _ => false

mutual

/-- Whether every number fits in 64 bits. -/
def Value.fits : Value → Bool
  | .integer value => isInteger64 value
  | .real value => !value.overflows
  | .array items => itemsFit items
  | .tables items => tablesFit items
  | .table _ fields => fieldsFit fields
  | _ => true

/-- Whether every number among the items fits. -/
def itemsFit : List (Placed Value) → Bool
  | [] => true
  | ⟨_, value⟩ :: items => value.fits && itemsFit items

/-- Whether every number in the tables fits. -/
def tablesFit : List (Placed (List (Key × Placed Value))) → Bool
  | [] => true
  | ⟨_, fields⟩ :: items => fieldsFit fields && tablesFit items

/-- Whether every number in the fields fits. -/
def fieldsFit : List (Key × Placed Value) → Bool
  | [] => true
  | (_, ⟨_, value⟩) :: fields => value.fits && fieldsFit fields

end

end QueueDepth.Toml
