import QueueDepth.Toml.Scalar
import QueueDepth.Toml.Table

/-!
# TOML documents

A document is a list of statements: pairs of a key and a value, and headers of tables. Each statement
stands on a line of its own, with its key and the head of its value; arrays and tables between
brackets or braces may run over several lines.
Brackets and braces nest up to a bound, and so do dotted keys.

* `value`: reads a value.
* `statements`: reads the statements of a document.
* `document`: the fields of a document, unless it is ill-formed.
-/

namespace QueueDepth.Toml

open Text (Place Placed)

/-- How deep arrays and tables nest, and how many dots a key may have at most. -/
def depthLimit : Nat := 80

/-- What a reader reads, with its place. -/
def placed {α : Type} (reader : Reader α) : Reader (Placed α) := fun text => do
  let (item, rest) ← reader text
  return (⟨⟨text, rest⟩, item⟩, rest)

/-! ## Keys -/

/-- Whether a character may stand in a key without quotation marks. -/
def isBareChar (c : Char) : Bool :=
  c.isAlphanum || c = '_' || c = '-'

/-- Read a key without dots. -/
def bareOrQuoted : Reader (List Char) := fun text =>
  match text with
  | '"' :: _ => lineText text
  | '\'' :: _ => lineText text
  | _ =>
    match text.takeWhile isBareChar with
    | [] => none
    | key => some (key, text.dropWhile isBareChar)

/-- Read a path of which at most `limit` keys stand before the last. -/
def pathWithin : Nat → Reader Path
  | limit, text => do
    let (key, rest) ← placed bareOrQuoted text
    match skipBlanks rest with
    | '.' :: more =>
      match limit with
      | 0 => none
      | limit + 1 => do
        let (path, rest) ← pathWithin limit (skipBlanks more)
        return ({ path with front := key :: path.front }, rest)
    | rest => return (⟨[], key⟩, rest)

/-- Read a path, and the blanks behind it. -/
def path : Reader Path :=
  pathWithin (depthLimit - 1)

/-! ## Values -/

/-- Read items up to a closing character, parted by commas; a comma may follow the last. There are
fewer than `limit` items. -/
def itemsWithin {α : Type} (item : Reader α) (close : Char) : Nat → Reader (List α)
  | 0, _ => none
  | limit + 1, text => do
    match ← skipSpace text with
    | [] => none
    | c :: rest =>
      if c = close then return ([], rest)
      else
        let (first, rest) ← item (c :: rest)
        match ← skipSpace rest with
        | [] => none
        | c :: rest =>
          if c = close then return ([first], rest)
          else if c = ',' then
            let (items, rest) ← itemsWithin item close limit rest
            return (first :: items, rest)
          else none

/-- Read items up to a closing character. -/
def items {α : Type} (item : Reader α) (close : Char) : Reader (List α) := fun text =>
  itemsWithin item close (text.length + 1) text

/-- Read a path and a value. Before and behind the equality sign there may be what `skip` leaves
out. -/
def pair (skip : List Char → Option (List Char)) (value : Reader Value) :
    Reader (Path × Placed Value) := fun text => do
  let (path, rest) ← path text
  match ← skip rest with
  | '=' :: rest =>
    let (value, rest) ← placed value (← skip rest)
    return ((path, value), rest)
  | _ => none

/-- Read a value in which arrays and tables nest at most `depth` deep. -/
def valueWithin (depth : Nat) : Reader Value := fun text =>
  match text with
  | '[' :: rest =>
    match depth with
    | 0 => none
    | depth + 1 => do
      let (values, rest) ← items (placed (valueWithin depth)) ']' rest
      return (.array values, rest)
  | '\x7b' :: rest =>
    match depth with
    | 0 => none
    | depth + 1 => do
      let (pairs, rest) ← items (pair skipSpace (valueWithin depth)) '\x7d' rest
      return (.table .inlined (← Fields.ofPairs pairs), rest)
  | '"' :: _ => (stringText text).map fun (content, rest) => (.text content, rest)
  | '\'' :: _ => (stringText text).map fun (content, rest) => (.text content, rest)
  | _ => scalar text

/-- Read a value. -/
def value : Reader Value :=
  valueWithin depthLimit

/-! ## Statements -/

/-- Read the path in a header of which the brackets are open, and the `closing` brackets. -/
def headerPath (closing : List Char) : Reader Path := fun text => do
  let (path, rest) ← path (skipBlanks text)
  if closing.isPrefixOf rest then return (path, rest.drop closing.length) else none

/-- Read a statement. -/
def statement : Reader Statement := fun text =>
  match text with
  | '[' :: '[' :: inner => do
    let (path, rest) ← headerPath [']', ']'] inner
    return (.element path ⟨text, rest⟩, rest)
  | '[' :: inner => do
    let (path, rest) ← headerPath [']'] inner
    return (.table path ⟨text, rest⟩, rest)
  | _ => do
    let ((path, value), rest) ← pair (some ∘ skipBlanks) value text
    return (.pair path value, rest)

/-- Read statements up to the end of the text. There are fewer than `limit` statements. -/
def statementsWithin : Nat → List Char → Option (List Statement)
  | 0, _ => none
  | limit + 1, text => do
    match ← skipSpace text with
    | [] => return []
    | text =>
      let (first, rest) ← statement text
      if atLineEnd rest then return first :: (← statementsWithin limit rest) else none

/-- The character that a text may begin with to say that it is Unicode. -/
def byteOrderMark : Char := '\uFEFF'

/-- A text without a byte order mark. -/
def dropByteOrderMark : List Char → List Char
  | c :: rest => if c = byteOrderMark then rest else c :: rest
  | [] => []

/-- The statements of a document. -/
def statements (text : List Char) : Option (List Statement) :=
  if returnsEndLines text then statementsWithin (text.length + 1) (dropByteOrderMark text) else none

/-- The fields of a document. -/
def document (text : List Char) : Option Fields := do
  Fields.ofStatements (← statements text)

end QueueDepth.Toml
