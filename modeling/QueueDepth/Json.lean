/-!
# JSON

JSON values without fractions and truth values, and their text with one item to a line and two blanks
for each level. Empty lists and objects stay on one line.
-/

namespace QueueDepth

/-- A JSON value. -/
inductive Json where
  | null
  | number (value : Int)
  | text (value : String)
  | list (items : List Json)
  /-- Named values in the order in which they are written. -/
  | object (fields : List (String × Json))

namespace Json

/-- The number of a count or timestamp. -/
def nat (value : Nat) : Json :=
  number value

/-- A number that may be absent. -/
def nat? : Option Nat → Json
  | some value => nat value
  | none => null

/-! ## Texts -/

/-- The form of a character in a JSON text. -/
def escaped (c : Char) : List Char :=
  match c with
  | '"' => ['\\', '"']
  | '\\' => ['\\', '\\']
  | '\x08' => ['\\', 'b']
  | '\t' => ['\\', 't']
  | '\n' => ['\\', 'n']
  | '\x0c' => ['\\', 'f']
  | '\r' => ['\\', 'r']
  | c =>
    if c.toNat < 0x20 then
      ['\\', 'u', '0', '0', Nat.digitChar (c.toNat / 16), Nat.digitChar (c.toNat % 16)]
    else
      [c]

/-- A text in quotation marks. -/
def quoted (text : String) : List Char :=
  '"' :: text.toList.flatMap escaped ++ ['"']

/-! ## Layout -/

/-- A new line at a level. -/
def newline (level : Nat) : List Char :=
  '\n' :: List.replicate (2 * level) ' '

mutual

/-- The text of a value whose first line begins at a level. -/
def layout (level : Nat) : Json → List Char
  | null => "null".toList
  | number value => value.repr.toList
  | text value => quoted value
  | list [] => ['[', ']']
  | list (item :: items) =>
    '[' :: newline (level + 1) ++ layout (level + 1) item ++ layoutItems (level + 1) items
      ++ newline level ++ [']']
  | object [] => ['\x7b', '\x7d']
  | object ((name, value) :: fields) =>
    '\x7b' :: newline (level + 1) ++ quoted name ++ [':', ' '] ++ layout (level + 1) value
      ++ layoutFields (level + 1) fields ++ newline level ++ ['\x7d']

/-- The items of a list behind its first. -/
def layoutItems (level : Nat) : List Json → List Char
  | [] => []
  | item :: items => ',' :: newline level ++ layout level item ++ layoutItems level items

/-- The fields of an object behind its first. -/
def layoutFields (level : Nat) : List (String × Json) → List Char
  | [] => []
  | (name, value) :: fields =>
    ',' :: newline level ++ quoted name ++ [':', ' '] ++ layout level value
      ++ layoutFields level fields

end

/-- The text of a value. -/
def render (json : Json) : String :=
  String.ofList (json.layout 0)

end Json

end QueueDepth
