import QueueDepth.Text.CodePoint
import QueueDepth.Toml.Layout

/-!
# Strings of TOML documents

A string stands between double or single quotation marks, either one or three of them. Between double
marks a backslash escapes the next character; between single marks every character stands for itself.
Three marks allow for line ends; one right behind the opening marks is dropped. Up to two marks may
stand in front of three closing ones.

* `stringText`: reads a string of any kind.
-/

namespace QueueDepth.Toml

open Text (hexDigit? charOfCode?)

/-! ## Escapes -/

/-- The characters that are escaped by a letter or a mark. -/
def shortEscape? (c : Char) : Option Char :=
  match c with
  | 'b' => some '\x08'
  | 't' => some '\t'
  | 'n' => some '\n'
  | 'f' => some '\x0c'
  | 'r' => some '\r'
  | 'e' => some '\x1b'
  | '"' => some '"'
  | '\\' => some '\\'
  | _ => none

/-- How many hexadecimal digits follow a letter that introduces a code point. -/
def codeLength? (c : Char) : Option Nat :=
  match c with
  | 'x' => some 2
  | 'u' => some 4
  | 'U' => some 8
  | _ => none

/-! ## Strings -/

/-- How many quotation marks enclose a string. -/
inductive Marks where
  | one
  | three
  deriving DecidableEq

/-- The closing of a string, given the text from a quotation mark on: the marks that belong to the
string, and the text behind the closing ones. -/
def closing? (marks : Marks) (mark : Char) (text : List Char) : Option (List Char × List Char) :=
  match marks with
  | .one => some ([], text.drop 1)
  | .three =>
    let run := min 5 (text.takeWhile (· = mark)).length
    if run < 3 then none else some (List.replicate (run - 3) mark, text.drop run)

/-- Put a character in front of what was read. -/
def keep (c : Char) (read : Option (List Char × List Char)) : Option (List Char × List Char) :=
  read.map fun (text, rest) => (c :: text, rest)

/-- What stands before a character between double quotation marks. -/
inductive Escape where
  /-- Nothing that concerns it. -/
  | free
  /-- A backslash. -/
  | opened
  /-- The head of a code point. After the next digit, `more` digits follow. -/
  | code (more value : Nat)
  /-- A backslash and blanks; a line end must follow. -/
  | beforeLineEnd
  /-- A backslash and a line end; blanks and further line ends are dropped. -/
  | afterLineEnd

/-- What a character does to a string. -/
inductive Step where
  /-- The string grows by `c`. -/
  | keep (c : Char) (next : Escape)
  /-- The string stays as it is. -/
  | drop (next : Escape)
  /-- The character is a quotation mark, which may close the string. -/
  | mark

/-- Whether a character may stand unescaped in a string. -/
def isKept (marks : Marks) (c : Char) : Bool :=
  isVisible c || (isLineEnd c && marks = .three)

/-- A character between double quotation marks that no escape concerns. -/
def freeStep? (marks : Marks) (c : Char) : Option Step :=
  if c = '"' then some .mark
  else if c = '\\' then some (.drop .opened)
  else if isKept marks c then some (.keep c .free)
  else none

/-- The character that a backslash escapes. -/
def openedStep? (marks : Marks) (c : Char) : Option Step :=
  match codeLength? c, shortEscape? c with
  | some length, _ => some (.drop (.code (length - 1) 0))
  | none, some escaped => some (.keep escaped .free)
  | none, none =>
    if marks = .one then none
    else if isLineEnd c then some (.drop .afterLineEnd)
    else if isBlank c then some (.drop .beforeLineEnd)
    else none

/-- A digit of a code point. -/
def codeStep? (more value : Nat) (c : Char) : Option Step := do
  let digit ← hexDigit? c
  let value := 16 * value + digit
  match more with
  | more + 1 => return .drop (.code more value)
  | 0 => return .keep (← charOfCode? value) .free

/-- What a character between double quotation marks does, unless it makes the string ill-formed. -/
def Escape.step? (marks : Marks) : Escape → Char → Option Step
  | free, c => freeStep? marks c
  | opened, c => openedStep? marks c
  | code more value, c => codeStep? more value c
  | beforeLineEnd, c =>
    if isLineEnd c then some (.drop .afterLineEnd)
    else if isBlank c then some (.drop .beforeLineEnd)
    else none
  | afterLineEnd, c =>
    if isLineEnd c || isBlank c then some (.drop .afterLineEnd) else freeStep? marks c

/-- The rest of a string between double quotation marks. -/
def basicFrom (marks : Marks) (escape : Escape) : List Char → Option (List Char × List Char)
  | [] => none
  | c :: rest =>
    match escape.step? marks c with
    | none => none
    | some (.keep kept next) => keep kept (basicFrom marks next rest)
    | some (.drop next) => basicFrom marks next rest
    | some .mark =>
      match closing? marks '"' (c :: rest) with
      | some closed => some closed
      | none => keep c (basicFrom marks .free rest)

/-- The rest of a string between single quotation marks. -/
def literalFrom (marks : Marks) : List Char → Option (List Char × List Char)
  | [] => none
  | c :: rest =>
    match if c = '\'' then closing? marks '\'' (c :: rest) else none with
    | some closed => some closed
    | none => if isKept marks c then keep c (literalFrom marks rest) else none

/-- A text without a line end at its head. -/
def dropLineEnd : List Char → List Char
  | '\r' :: '\n' :: rest => rest
  | '\n' :: rest => rest
  | text => text

/-- Read a string of one line. -/
def lineText : Reader (List Char)
  | '"' :: rest => basicFrom .one .free rest
  | '\'' :: rest => literalFrom .one rest
  | _ => none

/-- Read a string of any kind. -/
def stringText : Reader (List Char)
  | '"' :: '"' :: '"' :: rest => basicFrom .three .free (dropLineEnd rest)
  | '\'' :: '\'' :: '\'' :: rest => literalFrom .three (dropLineEnd rest)
  | text => lineText text

end QueueDepth.Toml
