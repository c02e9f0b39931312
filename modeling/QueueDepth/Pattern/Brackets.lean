import QueueDepth.Pattern.Escape

/-!
# Sets of patterns

A set stands between brackets. It lists characters, ranges of characters and other sets; a caret in
front turns it into all other characters, and doubled marks join what stands on their two sides. Right
behind the opening, hyphens and a closing bracket stand for themselves.

* `bracketed`: reads a set.
-/

namespace QueueDepth.Pattern

open Text (Place Placed)

/-- The opening of a set: where it stands, with all that belongs to it, and whether there is a
caret. -/
structure SetHead where
  place : Place
  negated : Bool

/-- Refuse a set that is never closed. -/
def SetHead.refuse {α : Type} (head : SetHead) : Except Complaint α :=
  .error { fault := .setUnclosed, place := head.place }

/-- The character at the head of a text, for itself. -/
def verbatim (c : Char) (rest : List Char) : Placed Letter :=
  ⟨⟨c :: rest, rest⟩, ⟨c, false⟩⟩

/-! ## Openings -/

/-- Read at most `limit` hyphens in the opening of the set at `text`. The last one comes first. -/
def hyphensWithin (spaced : Bool) (text : List Char) : Nat → List SetTree → Reader (List SetTree)
  | limit + 1, items, '-' :: rest =>
    if (skip spaced rest).isEmpty then refuse .setUnclosed text text
    else hyphensWithin spaced text limit (.letter (verbatim '-' rest) :: items) (skip spaced rest)
  | _, items, rest => .ok (items, rest)

/-- Read the characters that stand for themselves in the opening of the set at `text`. The last one
comes first. -/
def leading (spaced : Bool) (text : List Char) : Reader (List SetTree) := fun inner => do
  match ← hyphensWithin spaced text inner.length [] inner with
  | ([], ']' :: rest) =>
    if (skip spaced rest).isEmpty then refuse .setUnclosed text []
    else return ([.letter (verbatim ']' rest)], skip spaced rest)
  | opened => return opened

/-- A set of which some items are read. -/
structure SetDraft where
  /-- What stands in front of the last doubled mark, and what the mark means. -/
  front : Option (SetOperator × SetTree)
  /-- The text from where the items behind the mark may stand. -/
  start : List Char
  /-- The items behind the mark, the last first. -/
  items : List SetTree

/-- Read the opening of a set, and the items in it. -/
def setHead (spaced : Bool) : Reader (SetHead × SetDraft) := fun text => do
  let inner := skip spaced (text.drop 1)
  let negated : Bool := inner.head? = some '^'
  let inner := if negated then skip spaced (inner.drop 1) else inner
  if inner.isEmpty then refuse .setUnclosed text []
  else
    let (items, rest) ← leading spaced text inner
    return ((⟨⟨text, rest⟩, negated⟩, ⟨none, inner, items⟩), rest)

/-! ## Items -/

/-- The sets by name. -/
def classNames : List (String × ClassName) :=
  [("alnum", .alnum), ("alpha", .alpha), ("ascii", .ascii), ("blank", .blank), ("cntrl", .cntrl),
    ("digit", .digit), ("graph", .graph), ("lower", .lower), ("print", .print), ("punct", .punct),
    ("space", .space), ("upper", .upper), ("word", .word), ("xdigit", .xdigit)]

/-- The set whose name stands between colons at the head of a text, and the text behind it. -/
def namedSet? (text : List Char) : Option (SetTree × List Char) := do
  match text with
  | '[' :: ':' :: inner =>
    let negated : Bool := inner.head? = some '^'
    let inner := if negated then inner.drop 1 else inner
    match inner.dropWhile (· ≠ ':') with
    | ':' :: ']' :: rest =>
      let name ← classNames.lookup (String.ofList (inner.takeWhile (· ≠ ':')))
      return (.named ⟨text, rest⟩ name negated, rest)
    | _ => none
  | _ => none

/-- Read a character or an escape in a set. -/
def setAtom (spaced : Bool) : Reader (Placed Atom)
  | [] => refuse .setUnclosed [] []
  | '\\' :: rest => escape spaced ('\\' :: rest)
  | c :: rest => .ok (⟨⟨c :: rest, rest⟩, .letter ⟨c, false⟩⟩, rest)

/-- An escape as an item of a set. -/
def setItem (atom : Placed Atom) : Except Complaint SetTree :=
  match atom.item with
  | .letter written => .ok (.letter ⟨atom.place, written⟩)
  | .shorthand kind negated => .ok (.shorthand atom.place kind negated)
  | .property name => .ok (.property atom.place name)
  | _ => .error { fault := .setEscape, place := atom.place }

/-- An escape as an end of a range. -/
def rangeBound (atom : Placed Atom) : Except Complaint (Placed Letter) :=
  match atom.item with
  | .letter written => .ok ⟨atom.place, written⟩
  | _ => .error { fault := .rangeBound, place := atom.place }

/-- The range between two characters. -/
def rangeOf (first last : Placed Atom) : Except Complaint SetTree := do
  let first ← rangeBound first
  let last ← rangeBound last
  if first.item.char ≤ last.item.char then return .range first last
  else refuse .rangeBackwards first.place.start last.place.rest

/-- A pattern behind blanks and the mark of a comment, but not behind the comment. -/
def behindBlanks (comment : Bool) : List Char → List Char
  | [] => []
  | c :: rest =>
    if Text.isBlank c then behindBlanks comment rest
    else if c = '#' && !comment then behindBlanks true rest
    else c :: rest

/-- The character by which it is decided whether a hyphen in front of `text` makes a range. -/
def rangeHint (spaced : Bool) (text : List Char) : Option Char :=
  if spaced then (behindBlanks false text).head? else text.head?

/-- Read a range, or a single item. A hyphen makes a range unless another one or a closing bracket
follows. -/
def setRange (spaced : Bool) (head : SetHead) : Reader SetTree := fun text => do
  let (first, rest) ← setAtom spaced text
  match skip spaced rest with
  | [] => head.refuse
  | '-' :: behind =>
    let hint := rangeHint spaced behind
    if hint = some ']' || hint = some '-' then return (← setItem first, '-' :: behind)
    else if (skip spaced behind).isEmpty then head.refuse
    else
      let (last, rest) ← setAtom spaced (skip spaced behind)
      return (← rangeOf first last, rest)
  | rest => return (← setItem first, rest)

/-! ## Sets -/

namespace SetDraft

/-- A draft with one more item. -/
def add (draft : SetDraft) (item : SetTree) : SetDraft :=
  { draft with items := item :: draft.items }

/-- All that a draft holds. -/
def whole (draft : SetDraft) : SetTree :=
  let items := .ofItems ⟨draft.start, draft.start⟩ draft.items
  match draft.front with
  | none => items
  | some (operator, front) => .joined operator front items

/-- A draft behind a doubled mark, up to which it is read. -/
def join (draft : SetDraft) (operator : SetOperator) (rest : List Char) : SetDraft :=
  ⟨some (operator, draft.whole), rest, []⟩

end SetDraft

/-- Read the items of a set up to its closing bracket. There are fewer than `limit` of them, those of
inner sets included. -/
def setWithin (spaced : Bool) : Nat → SetHead → SetDraft → Reader SetTree
  | 0, head, _, _ => head.refuse
  | limit + 1, head, draft, text =>
    match skip spaced text with
    | [] => head.refuse
    | ']' :: rest =>
      .ok (.bracketed ⟨head.place.start, rest⟩ head.negated draft.whole, rest)
    | '&' :: '&' :: rest => setWithin spaced limit head (draft.join .intersection rest) rest
    | '-' :: '-' :: rest => setWithin spaced limit head (draft.join .difference rest) rest
    | '~' :: '~' :: rest => setWithin spaced limit head (draft.join .symmetricDifference rest) rest
    | '[' :: rest =>
      match namedSet? ('[' :: rest) with
      | some (item, rest) => setWithin spaced limit head (draft.add item) rest
      | none => do
        let ((inner, items), rest) ← setHead spaced ('[' :: rest)
        let (set, rest) ← setWithin spaced limit inner items rest
        setWithin spaced limit head (draft.add set) rest
    | text => do
      let (item, rest) ← setRange spaced head text
      setWithin spaced limit head (draft.add item) rest

/-- Read a set, at its opening bracket. -/
def bracketed (spaced : Bool) : Reader SetTree := fun text => do
  let ((head, draft), rest) ← setHead spaced text
  setWithin spaced (text.length + 1) head draft rest

end QueueDepth.Pattern
