import QueueDepth.Text.Pieces
import QueueDepth.Text.Place

/-!
# Faults of patterns

What is wrong with a pattern, and how that is reported: the pattern, carets below the part at fault,
and the wording of the fault. The lines of a pattern that has several are numbered.

* `Fault.message`: the wording of a fault.
* `Complaint.report`: the report of a fault at a place.
-/

namespace QueueDepth.Pattern

open Text (Place)

/-- What is wrong with a pattern. -/
inductive Fault where
  | setUnclosed
  | setEscape
  | rangeBackwards
  | rangeBound
  | countMissing
  | countTooLarge
  | countUnclosed
  | countBackwards
  | nothingToRepeat
  | codeMissing
  | codeInvalid
  | codeDigit
  | escapeUnfinished
  | escapeUnknown
  | flagsUnfinished
  | flagUnknown
  | flagRepeated
  | negationRepeated
  | negationDangling
  | nameMissing
  | nameInvalid
  | nameUnclosed
  | nameRepeated
  | groupUnclosed
  | groupUnopened
  | edgeUnclosed
  | edgeUnknown
  | edgeUnfinished
  | nestedTooDeep
  | propertyInvalid
  | backreference
  | lookAround
  | allScriptsRefused
  | notUtf8
  | propertyUnknown
  | propertyValueUnknown
  | shorthandUnavailable
  | caseUnavailable
  deriving DecidableEq

/-- How many parts of a pattern may stand within one another. -/
def nestingLimit : Nat := 250

/-- The wording of a fault. -/
def Fault.message : Fault → String
  | setUnclosed => "unclosed character class"
  | setEscape => "invalid escape sequence found in character class"
  | rangeBackwards => "invalid character class range, the start must be <= the end"
  | rangeBound => "invalid range boundary, must be a literal"
  | countMissing => "repetition quantifier expects a valid decimal"
  | countTooLarge => "decimal literal invalid"
  | countUnclosed => "unclosed counted repetition"
  | countBackwards => "invalid repetition count range, the start must be <= the end"
  | nothingToRepeat => "repetition operator missing expression"
  | codeMissing => "hexadecimal literal empty"
  | codeInvalid => "hexadecimal literal is not a Unicode scalar value"
  | codeDigit => "invalid hexadecimal digit"
  | escapeUnfinished => "incomplete escape sequence, reached end of pattern prematurely"
  | escapeUnknown => "unrecognized escape sequence"
  | flagsUnfinished => "expected flag but got end of regex"
  | flagUnknown => "unrecognized flag"
  | flagRepeated => "duplicate flag"
  | negationRepeated => "flag negation operator repeated"
  | negationDangling => "dangling flag negation operator"
  | nameMissing => "empty capture group name"
  | nameInvalid => "invalid capture group character"
  | nameUnclosed => "unclosed capture group name"
  | nameRepeated => "duplicate capture group name"
  | groupUnclosed => "unclosed group"
  | groupUnopened => "unopened group"
  | edgeUnclosed =>
    "special word boundary assertion is either unclosed or contains an invalid character"
  | edgeUnknown =>
    "unrecognized special word boundary assertion, valid choices are: start, end, start-half "
      ++ "or end-half"
  | edgeUnfinished =>
    "found either the beginning of a special word boundary or a bounded repetition on a \\b with "
      ++ "an opening brace, but no closing brace"
  | nestedTooDeep =>
    "exceed the maximum number of nested parentheses/brackets (" ++ nestingLimit.repr ++ ")"
  | propertyInvalid => "invalid Unicode character class"
  | backreference => "backreferences are not supported"
  | lookAround => "look-around, including look-ahead and look-behind, is not supported"
  | allScriptsRefused => "Unicode not allowed here"
  | notUtf8 => "pattern can match invalid UTF-8"
  | propertyUnknown => "Unicode property not found"
  | propertyValueUnknown => "Unicode property value not found"
  | shorthandUnavailable =>
    "Unicode-aware Perl class not found (make sure the unicode-perl feature is enabled)"
  | caseUnavailable =>
    "Unicode-aware case insensitivity matching is not available (make sure the unicode-case "
      ++ "feature is enabled)"

/-- A fault at a place of a pattern. -/
structure Complaint where
  fault : Fault
  place : Place
  /-- The place that the fault repeats. -/
  earlier : Option Place := none

/-! ## Reports -/

/-- A number of equal characters. -/
def row (count : Nat) (c : Char) : List Char :=
  List.replicate count c

/-- The lines of a pattern, without the line ends. Behind a last line end there is no line. -/
def linesOf (text : List Char) : List (List Char) :=
  let pieces := Text.split '\n' text
  let ended := pieces.dropLast.map fun line =>
    if line.getLast? = some '\r' then line.dropLast else line
  ended ++ (pieces.getLast?.filter (· ≠ [])).toList

/-- Where a part of a pattern begins and ends: its lines and columns, all counted from zero. -/
abbrev Stretch := (Nat × Nat) × (Nat × Nat)

/-- The stretch of a place. -/
def stretch (text : List Char) (place : Place) : Stretch :=
  (place.position text, place.finish text)

/-- Carets below the stretches of a line, from the column `column` on. -/
def carets : Nat → List Stretch → List Char
  | _, [] => []
  | column, ((_, first), (_, last)) :: rest =>
    let width := max 1 (last - first)
    row (first - column) ' ' ++ row width '^' ++ carets (max column first + width) rest

/-- The lines of a pattern, each behind its margin and above the carets that belong to it. -/
def marked (text : List Char) (stretches : List Stretch) : List Char :=
  let lines := linesOf text
  let count := lines.length + if text.getLast? = some '\n' then 1 else 0
  let width := if count ≤ 1 then 0 else count.repr.length
  let margin (line : Nat) : List Char :=
    if width = 0 then row 4 ' '
    else row (width - (line + 1).repr.length) ' ' ++ (line + 1).repr.toList ++ [':', ' ']
  lines.zipIdx.flatMap fun (content, line) =>
    let below := stretches.filter fun ((first, _), (last, _)) => first = line && last = line
    margin line ++ content ++ ['\n'] ++
      if below.isEmpty then []
      else row (if width = 0 then 4 else width + 2) ' ' ++ carets 0 below ++ ['\n']

/-- A stretch over several lines, in words. -/
def Stretch.describe : Stretch → String
  | ((firstLine, firstColumn), (lastLine, lastColumn)) =>
    "on line " ++ (firstLine + 1).repr ++ " (column " ++ (firstColumn + 1).repr ++ ") through line "
      ++ (lastLine + 1).repr ++ " (column " ++ lastColumn.repr ++ ")\n"

/-- The report of a fault. -/
def Complaint.report (text : List Char) (complaint : Complaint) : String :=
  let stretches := (complaint.earlier.toList ++ [complaint.place]).map (stretch text)
  let shown := String.ofList (marked text stretches)
  let rule := String.ofList (row 79 '~') ++ "\n"
  "regex parse error:\n"
    ++ (if text.contains '\n' then
        rule ++ shown ++ rule
          ++ String.join ((stretches.filter fun ((first, _), (last, _)) => first ≠ last).map
            Stretch.describe)
      else shown)
    ++ "error: " ++ complaint.fault.message

end QueueDepth.Pattern
