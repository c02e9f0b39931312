import QueueDepth.Pattern.Brackets
import QueueDepth.Pattern.Nesting
import QueueDepth.Text.Alphabetic
import QueueDepth.Text.Numeral

/-!
# Reading patterns

A pattern is read part by part. Behind an opening parenthesis there may be switches or a name; a bar
parts alternatives; a mark or a count behind a part repeats it. The groups that are open are kept as a
stack, so that each part costs one step.

* `Tree.ofText`: the tree of a pattern, or what is wrong with it.
-/

namespace QueueDepth.Pattern

open Text (Place Placed)

/-! ## Switches -/

/-- A letter or hyphen among switches. -/
inductive SwitchMark where
  | negation
  | flag (flag : Flag)
  deriving DecidableEq

/-- The meaning of a character among switches. -/
def SwitchMark.ofChar? (c : Char) : Option SwitchMark :=
  match c with
  | '-' => some .negation
  | 'i' => some (.flag .ignoresCase)
  | 'm' => some (.flag .lines)
  | 's' => some (.flag .dotTakesAll)
  | 'U' => some (.flag .fewFirst)
  | 'u' => some (.flag .allScripts)
  | 'R' => some (.flag .returns)
  | 'x' => some (.flag .spaced)
  | _ => none

/-- The switches that marks mean: behind a hyphen, flags are switched off. -/
def switchesOf (on : Bool) : List (Placed SwitchMark) → Switches
  | [] => []
  | ⟨_, .negation⟩ :: marks => switchesOf false marks
  | ⟨_, .flag flag⟩ :: marks => (flag, on) :: switchesOf on marks

/-- What is wrong with a mark that is there a second time. -/
def SwitchMark.repeated : SwitchMark → Fault
  | negation => .negationRepeated
  | flag _ => .flagRepeated

/-- Read marks up to a colon or a closing parenthesis, behind the marks `before`, the last of which
comes first. -/
def switchMarks (before : List (Placed SwitchMark)) : Reader (List (Placed SwitchMark))
  | [] => refuse .flagsUnfinished [] []
  | c :: rest =>
    let place : Place := ⟨c :: rest, rest⟩
    if c = ':' || c = ')' then
      match before with
      | ⟨place, .negation⟩ :: _ => .error { fault := .negationDangling, place }
      | _ => .ok (before.reverse, c :: rest)
    else
      match SwitchMark.ofChar? c with
      | none => .error { fault := .flagUnknown, place }
      | some mark =>
        match before.find? (·.item = mark) with
        | some earlier =>
          .error { fault := mark.repeated, place, earlier := some earlier.place }
        | none => switchMarks (⟨place, mark⟩ :: before) rest

/-! ## Names -/

/-- Whether a character may stand in the name of a group. -/
def isNameChar (first : Bool) (c : Char) : Bool :=
  c = '_' || Text.isAlphabetic c ||
    (!first && (Text.isNumeral c || c = '.' || c = '[' || c = ']'))

/-- Make sure that a name is well-formed up to its closing bracket. -/
def checkName (first : Bool) : List Char → Except Complaint Unit
  | [] => refuse .nameUnclosed [] []
  | c :: rest =>
    if c = '>' then .ok ()
    else if isNameChar first c then checkName false rest
    else refuse .nameInvalid (c :: rest) rest

/-- Read the name of a group, behind its opening bracket. It must not be among the names `earlier`. -/
def groupName (earlier : List (Placed (List Char))) : Reader (Placed (List Char)) := fun text => do
  checkName true text
  let behind := text.dropWhile (· ≠ '>')
  let name : Placed (List Char) := ⟨⟨text, behind⟩, text.takeWhile (· ≠ '>')⟩
  if name.item.isEmpty then refuse .nameMissing text text
  else
    match earlier.find? (·.item = name.item) with
    | some first =>
      .error { fault := .nameRepeated, place := name.place, earlier := some first.place }
    | none => return (name, behind.drop 1)

/-! ## Groups -/

/-- A group of which some parts are read. -/
structure Level where
  /-- The text from the first alternative on. -/
  start : List Char
  /-- The alternatives that are over, the last first. -/
  ended : List Tree
  /-- The text from the open alternative on. -/
  branch : List Char
  /-- The parts of the open alternative, the last first. -/
  parts : List (Placed Tree)

namespace Level

/-- A group of which nothing is read, in front of its first alternative. -/
def initial (start : List Char) : Level :=
  ⟨start, [], start, []⟩

/-- The open alternative, up to its end. -/
def current (level : Level) (rest : List Char) : Tree :=
  .inSequence ⟨level.branch, rest⟩ (level.parts.map (·.item)).reverse

/-- All that a group holds, up to its end. -/
def whole (level : Level) (rest : List Char) : Tree :=
  .inChoice ⟨level.start, rest⟩ (level.current rest :: level.ended).reverse

/-- Begin the next alternative, behind the bar that ends the open one. -/
def turn (level : Level) (bar rest : List Char) : Level :=
  { level with ended := level.current bar :: level.ended, branch := rest, parts := [] }

end Level

/-- A group around the one that is open. -/
structure Frame where
  /-- The parenthesis that opens the inner group. -/
  place : Place
  /-- How the inner group is opened. -/
  kind : GroupKind
  /-- Whether the pattern is spaced out around the inner group. -/
  spaced : Bool
  level : Level

/-- A pattern of which some parts are read. -/
structure Draft where
  /-- The groups around the open one, the innermost first. -/
  frames : List Frame := []
  /-- The open group. -/
  level : Level
  spaced : Bool := false
  /-- The names of groups, the last first. -/
  names : List (Placed (List Char)) := []

namespace Draft

/-- Add the part between two suffixes of the pattern. -/
def add (draft : Draft) (start rest : List Char) (part : Tree) : Draft :=
  { draft with
    level := { draft.level with parts := ⟨⟨start, rest⟩, part⟩ :: draft.level.parts } }

/-- Open a group, whose first alternative begins at `inner`. -/
def enter (draft : Draft) (place : Place) (kind : GroupKind) (inner : List Char) : Draft :=
  { draft with
    frames := ⟨place, kind, draft.spaced, draft.level⟩ :: draft.frames
    level := .initial inner
    spaced := (kind.switches.lookup .spaced).getD draft.spaced }

/-- Close the open group, at a parenthesis. -/
def leave (draft : Draft) (place : Place) : Except Complaint Draft :=
  match draft.frames with
  | [] => .error { fault := .groupUnopened, place }
  | frame :: frames =>
    let group : Tree :=
      .group ⟨frame.place.start, place.rest⟩ frame.kind (draft.level.whole place.start)
    let outer := { draft with frames, level := frame.level, spaced := frame.spaced }
    .ok (outer.add frame.place.start place.rest group)

/-- Begin the next alternative. -/
def turn (draft : Draft) (bar rest : List Char) : Draft :=
  { draft with level := draft.level.turn bar rest }

/-- Switch flags for the rest of the group. -/
def switch (draft : Draft) (start rest : List Char) (switches : Switches) : Draft :=
  { draft.add start rest (.switches switches) with
    spaced := (switches.lookup .spaced).getD draft.spaced }

end Draft

/-- The text behind the first opening of a group that it begins with. -/
def behindAny? (openings : List String) (text : List Char) : Option (List Char) :=
  (openings.find? (·.toList.isPrefixOf text)).map fun opening => text.drop opening.length

namespace Draft

/-- Take switches, for the rest of the group or for one that they open. They stand behind the question
mark of `text`. -/
def takeSwitches (draft : Draft) (place : Place) (text inner : List Char) :
    Except Complaint (Draft × List Char) := do
  if inner.isEmpty then .error { fault := .groupUnclosed, place }
  else
    let (marks, rest) ← switchMarks [] inner
    let switches := switchesOf true marks
    let behind := rest.drop 1
    if rest.head? = some ')' then
      if marks.isEmpty then refuse .nothingToRepeat text text
      else return (draft.switch place.start behind switches, behind)
    else return (draft.enter place (.plain switches) behind, behind)

/-- Take an opening parenthesis, and what belongs to it. -/
def takeOpening (draft : Draft) (text rest : List Char) : Except Complaint (Draft × List Char) :=
  let inner := skip draft.spaced rest
  if let some behind := behindAny? ["?=", "?!", "?<=", "?<!"] inner then
    refuse .lookAround text behind
  else if let some name := behindAny? ["?P<", "?<"] inner then do
    let (name, behind) ← groupName draft.names name
    return ({ draft.enter ⟨text, rest⟩ .numbered behind with names := name :: draft.names }, behind)
  else
    match inner with
    | '?' :: behind => draft.takeSwitches ⟨text, rest⟩ inner behind
    | _ => .ok (draft.enter ⟨text, rest⟩ .numbered inner, inner)

/-! ## Repetitions -/

/-- The part that a mark or a count at `text` repeats, and the draft without it. -/
def last (draft : Draft) (text : List Char) : Except Complaint (Placed Tree × Draft) :=
  match draft.level.parts with
  | [] => refuse .nothingToRepeat text text
  | part :: parts =>
    if part.item.isSwitches then refuse .nothingToRepeat text text
    else .ok (part, { draft with level := { draft.level with parts } })

/-- Repeat a part. A question mark at the head of a text says that few times are tried first. -/
def repeatPart (draft : Draft) (part : Placed Tree) (least : Nat) (most : Option Nat)
    (text : List Char) : Draft × List Char :=
  let fewFirst : Bool := text.head? = some '?'
  let rest := if fewFirst then text.drop 1 else text
  let start := part.place.start
  (draft.add start rest (.repeated ⟨start, rest⟩ least most fewFirst part.item), rest)

/-- Take a mark that repeats the last part. -/
def takeMark (draft : Draft) (least : Nat) (most : Option Nat) (text rest : List Char) :
    Except Complaint (Draft × List Char) := do
  let (part, draft) ← draft.last text
  return draft.repeatPart part least most rest

/-- The greatest count is below this bound. -/
def countBound : Nat := Nat.pow 2 32

/-- The number at the head of a text, or what is wrong with it, and the text behind it. -/
def count (spaced : Bool) (text : List Char) : Except Complaint Nat × List Char :=
  let start := text.dropWhile Text.isBlank
  let (digits, behind) := gather spaced Char.isDigit start
  let value := digits.foldl (fun value c => 10 * value + (c.toNat - '0'.toNat)) 0
  (if digits.isEmpty then refuse .countMissing start behind
    else if countBound ≤ value then refuse .countTooLarge start behind
    else .ok value,
    behind.dropWhile Text.isBlank)

/-- Read the bounds of a count, behind the opening brace of `text`. -/
def bounds (spaced : Bool) (text : List Char) : Reader (Nat × Option Nat) := fun inner =>
  let (least, rest) := count spaced inner
  match rest with
  | [] => refuse .countUnclosed text []
  | ',' :: rest =>
    match skip spaced rest with
    | [] => refuse .countUnclosed text []
    | '}' :: behind => do return ((← least, none), '}' :: behind)
    | rest => do
      let least ← least
      let (most, rest) := count spaced rest
      return ((least, some (← most)), rest)
  | rest => do
    let least ← least
    return ((least, some least), rest)

/-- Take a count between braces, which repeats the last part. -/
def takeCount (draft : Draft) (text rest : List Char) : Except Complaint (Draft × List Char) := do
  let (part, draft) ← draft.last text
  let inner := skip draft.spaced rest
  if inner.isEmpty then refuse .countUnclosed text []
  else
    let ((least, most), behind) ← bounds draft.spaced text inner
    match behind with
    | '}' :: rest =>
      let (draft, rest) := draft.repeatPart part least most (skip draft.spaced rest)
      if most.any (· < least) then refuse .countBackwards text rest
      else return (draft, rest)
    | _ => refuse .countUnclosed text behind

/-! ## Parts -/

/-- Take a part of one character, or an escape. -/
def takeAtom (draft : Draft) (text : List Char) (c : Char) (rest : List Char) :
    Except Complaint (Draft × List Char) := do
  let (atom, rest) ←
    match c with
    | '\\' => escape draft.spaced text
    | '.' => .ok (⟨⟨text, rest⟩, .dot⟩, rest)
    | '^' => .ok (⟨⟨text, rest⟩, .assertion .lineStart⟩, rest)
    | '$' => .ok (⟨⟨text, rest⟩, .assertion .lineFinish⟩, rest)
    | c => .ok (⟨⟨text, rest⟩, .letter ⟨c, false⟩⟩, rest)
  return (draft.add text rest (.atom atom), rest)

/-- Take the part of a pattern that begins with `c`. -/
def take (draft : Draft) (c : Char) (rest : List Char) : Except Complaint (Draft × List Char) :=
  let text := c :: rest
  match c with
  | '(' => draft.takeOpening text rest
  | ')' => do return (← draft.leave ⟨text, rest⟩, rest)
  | '|' => .ok (draft.turn text rest, rest)
  | '[' => do
    let (set, rest) ← bracketed draft.spaced text
    return (draft.add text rest (.set set), rest)
  | '?' => draft.takeMark 0 (some 1) text rest
  | '*' => draft.takeMark 0 none text rest
  | '+' => draft.takeMark 1 none text rest
  | '\x7b' => draft.takeCount text rest
  | c => draft.takeAtom text c rest

/-- Take the rest of a pattern. There are fewer than `limit` parts. -/
def takeAll : Nat → Draft → List Char → Except Complaint Tree
  | 0, draft, text => .ok (draft.level.whole text)
  | limit + 1, draft, text =>
    match skip draft.spaced text, draft.frames with
    | [], [] => .ok (draft.level.whole [])
    | [], frame :: _ => .error { fault := .groupUnclosed, place := frame.place }
    | c :: rest, _ => do
      let (draft, rest) ← draft.take c rest
      takeAll limit draft rest

end Draft

/-- The tree of a pattern. -/
def Tree.ofText (text : List Char) : Except Complaint Tree :=
  Draft.takeAll (text.length + 1) { level := .initial text } text >>= Tree.checkNesting

end QueueDepth.Pattern
