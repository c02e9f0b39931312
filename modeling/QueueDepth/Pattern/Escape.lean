import QueueDepth.Pattern.Fault
import QueueDepth.Pattern.Tree
import QueueDepth.Text.Blank
import QueueDepth.Text.CodePoint

/-!
# Escapes of patterns

A backslash gives the next character another meaning: it takes away the special one of a mark, and
makes a letter stand for a character, a set or a condition. Where a pattern is spaced out, blanks and
comments may stand between all of its parts.

* `skip`: the blanks and comments of a pattern that is spaced out.
* `escape`: reads an escape.
-/

namespace QueueDepth.Pattern

open Text (Place Placed)

/-- Something that reads the head of a pattern. -/
abbrev Reader (α : Type) := List Char → Except Complaint (α × List Char)

/-- Refuse the part of a pattern between two of its suffixes. -/
def refuse {α : Type} (fault : Fault) (start rest : List Char) : Except Complaint α :=
  .error { fault, place := ⟨start, rest⟩ }

/-! ## Spacing -/

/-- A pattern behind blanks and comments. A flag says whether a comment is open. -/
def skipFrom (comment : Bool) : List Char → List Char
  | [] => []
  | c :: rest =>
    if comment then skipFrom (c ≠ '\n') rest
    else if Text.isBlank c then skipFrom false rest
    else if c = '#' then skipFrom true rest
    else c :: rest

/-- A pattern behind the blanks and comments that mean nothing, if it is spaced out. -/
def skip (spaced : Bool) (text : List Char) : List Char :=
  if spaced then skipFrom false text else text

/-- At most `limit` accepted characters at the head of a pattern, and the pattern behind them. -/
def gatherWithin (spaced : Bool) (accepts : Char → Bool) : Nat → List Char → List Char × List Char
  | 0, text => ([], text)
  | _, [] => ([], [])
  | limit + 1, c :: rest =>
    if accepts c then
      let (more, rest) := gatherWithin spaced accepts limit (skip spaced rest)
      (c :: more, rest)
    else ([], c :: rest)

/-- The accepted characters at the head of a pattern, and the pattern behind them. -/
def gather (spaced : Bool) (accepts : Char → Bool) (text : List Char) : List Char × List Char :=
  gatherWithin spaced accepts text.length text

/-! ## Code points -/

/-- The character of a code point that is written between two suffixes. -/
def letterOfCode (isByte : Bool) (code : Nat) (start rest : List Char) : Except Complaint Atom :=
  match Text.charOfCode? code with
  | some c => .ok (.letter ⟨c, isByte⟩)
  | none => refuse .codeInvalid start rest

/-- Read so many hexadecimal digits, behind others of value `value`. -/
def fixedDigits (spaced : Bool) : Nat → Nat → Reader Nat
  | 0, value, text => .ok (value, text)
  | _, _, [] => refuse .escapeUnfinished [] []
  | count + 1, value, c :: rest =>
    match Text.hexDigit? c with
    | none => refuse .codeDigit (c :: rest) rest
    | some digit => fixedDigits spaced count (16 * value + digit) (skip spaced rest)

/-- Read a code point between braces, behind the opening one of `text`. -/
def bracedCode (spaced : Bool) (text : List Char) : Reader Atom := fun inner => do
  let (digits, behind) := gather spaced (Text.hexDigit? · |>.isSome) (skip spaced inner)
  match behind with
  | [] => refuse .escapeUnfinished text []
  | c :: rest =>
    if c ≠ '}' then refuse .codeDigit behind rest
    else if digits.isEmpty then refuse .codeMissing text (skip spaced rest)
    else
      let code := digits.foldl (fun value c => 16 * value + (Text.hexDigit? c).getD 0) 0
      return (← letterOfCode false code inner behind, skip spaced rest)

/-- How many digits follow a letter that introduces a code point. -/
def codeLength? (c : Char) : Option Nat :=
  match c with
  | 'x' => some 2
  | 'u' => some 4
  | 'U' => some 8
  | _ => none

/-- Read a code point, behind the letter that introduces it. -/
def code (spaced : Bool) (length : Nat) : Reader Atom := fun text =>
  match skip spaced text with
  | [] => refuse .escapeUnfinished [] []
  | '\x7b' :: rest => bracedCode spaced ('\x7b' :: rest) rest
  | digits => do
    let (code, rest) ← fixedDigits spaced length 0 digits
    return (← letterOfCode (length = 2) code digits rest, rest)

/-! ## Sets and conditions -/

/-- The name of a property, as far as it counts: without blanks, hyphens, underscores and a leading
"is", in lower case. -/
def plainName (name : List Char) : List Char :=
  let lower := name.map Char.toLower
  let bare := if ['i', 's'].isPrefixOf lower then lower.drop 2 else lower
  bare.filter fun c => c ≠ ' ' && c ≠ '_' && c ≠ '-' && c.toNat < 128

/-- What the name of a property may be the name of. -/
def propertyName (name : List Char) : PropertyName :=
  if ["cf", "lc", "sc"].contains (String.ofList (plainName name)) then .value else .plain

/-- Read the name of a property, behind the letter that introduces it. -/
def property (spaced : Bool) : Reader Atom := fun text =>
  match skip spaced text with
  | [] => refuse .escapeUnfinished [] []
  | '\x7b' :: inner =>
    match gather spaced (· ≠ '}') (skip spaced inner) with
    | (_, []) => refuse .escapeUnfinished [] []
    | (name, _ :: rest) => .ok (.property (propertyName name), rest)
  | '\\' :: rest => refuse .propertyInvalid ('\\' :: rest) rest
  | _ :: rest => .ok (.property .plain, skip spaced rest)

/-- The sets that have a letter. A capital one stands for all other characters. -/
def shorthand? (c : Char) : Option Atom :=
  match c with
  | 'd' => some (.shorthand .digit false)
  | 's' => some (.shorthand .blank false)
  | 'w' => some (.shorthand .word false)
  | 'D' => some (.shorthand .digit true)
  | 'S' => some (.shorthand .blank true)
  | 'W' => some (.shorthand .word true)
  | _ => none

/-- The conditions on words that have a name. -/
def edgeOfName? (name : List Char) : Option WordEdge :=
  [("start", WordEdge.start), ("end", .finish), ("start-half", .noneBefore),
    ("end-half", .noneBehind)].lookup (String.ofList name)

/-- Whether a character may stand in the name of a condition on words. -/
def isEdgeChar (c : Char) : Bool :=
  c.isAlpha || c = '-'

/-- Read a condition on words, behind the letter of the escape `text`. A brace introduces its name; but
if no name follows, the brace does not belong to the condition. -/
def wordEdge (spaced : Bool) (text : List Char) : Reader Atom := fun rest =>
  match rest with
  | '\x7b' :: inner =>
    match skip spaced inner with
    | [] => refuse .edgeUnfinished text []
    | c :: more =>
      if !isEdgeChar c then .ok (.assertion (.word .boundary), rest)
      else
        match gather spaced isEdgeChar (c :: more) with
        | (name, '}' :: behind) =>
          match edgeOfName? name with
          | some edge => .ok (.assertion (.word edge), behind)
          | none => refuse .edgeUnknown (c :: more) ('}' :: behind)
        | (_, behind) => refuse .edgeUnclosed rest behind
  | _ => .ok (.assertion (.word .boundary), rest)

/-! ## Escapes -/

/-- Whether a character stands for itself behind a backslash. -/
def isEscapable (c : Char) : Bool :=
  c.toNat < 128 && !c.isAlphanum && c ≠ '<' && c ≠ '>'

/-- The characters and conditions that have a letter. -/
def lettered? (c : Char) : Option Atom :=
  match c with
  | 'a' => some (.letter ⟨'\x07', false⟩)
  | 'f' => some (.letter ⟨'\x0c', false⟩)
  | 't' => some (.letter ⟨'\t', false⟩)
  | 'n' => some (.letter ⟨'\n', false⟩)
  | 'r' => some (.letter ⟨'\r', false⟩)
  | 'v' => some (.letter ⟨'\x0b', false⟩)
  | 'A' => some (.assertion .textStart)
  | 'z' => some (.assertion .textFinish)
  | 'B' => some (.assertion (.word .noBoundary))
  | '<' => some (.assertion (.word .start))
  | '>' => some (.assertion (.word .finish))
  | _ => none

/-- Read what a character means behind the backslash at the head of `text`. -/
def escaped (spaced : Bool) (text : List Char) (c : Char) : Reader Atom := fun rest =>
  if c.isDigit then refuse .backreference text rest
  else if let some length := codeLength? c then code spaced length rest
  else if c = 'p' || c = 'P' then property spaced rest
  else if c = 'b' then wordEdge spaced text rest
  else if isEscapable c then .ok (.letter ⟨c, false⟩, rest)
  else
    match shorthand? c, lettered? c with
    | some atom, _ => .ok (atom, rest)
    | none, some atom => .ok (atom, rest)
    | none, none => refuse .escapeUnknown text rest

/-- Read an escape, at a backslash. -/
def escape (spaced : Bool) : Reader (Placed Atom) := fun text =>
  match text.drop 1 with
  | [] => refuse .escapeUnfinished text []
  | c :: rest => do
    let (atom, rest) ← escaped spaced text c rest
    return (⟨⟨text, rest⟩, atom⟩, rest)

end QueueDepth.Pattern
