/-!
# Conditions on places

A pattern may ask what stands on the two sides of a place: the start or the end of the text or of a
line, or the edge of a word.

* `Anchor.holds`: whether a condition holds between two characters.
-/

namespace QueueDepth.Pattern

/-- What stands on the two sides of a place, as far as words are concerned. -/
inductive WordEdge where
  /-- A word begins or ends. -/
  | boundary
  /-- No word begins or ends. -/
  | noBoundary
  | start
  | finish
  /-- No word ends or goes on. -/
  | noneBefore
  /-- No word begins or goes on. -/
  | noneBehind
  deriving DecidableEq

/-- A condition on a place of a text. -/
inductive Anchor where
  | textStart
  | textFinish
  /-- The start of a line. The flag says whether a carriage return ends lines too. -/
  | lineStart (returns : Bool)
  /-- The end of a line. The flag says whether a carriage return ends lines too. -/
  | lineFinish (returns : Bool)
  /-- The flag says whether words are made of the letters of all scripts. -/
  | word (edge : WordEdge) (allScripts : Bool)
  deriving DecidableEq

/-- A place of a text. -/
structure Spot where
  /-- The character in front of it. -/
  before : Option Char
  /-- The character behind it. -/
  behind : Option Char

/-- Whether a character belongs to a word. -/
def isWordChar (c : Char) : Bool :=
  c.isAlphanum || c = '_'

/-- Whether a condition on words holds, given whether there are word characters on the two sides. -/
def WordEdge.holds : WordEdge → Bool → Bool → Bool
  | boundary, before, behind => before != behind
  | noBoundary, before, behind => before == behind
  | start, before, behind => !before && behind
  | finish, before, behind => before && !behind
  | noneBefore, before, _ => !before
  | noneBehind, _, behind => !behind

/-- Whether a condition holds at a place. -/
def Anchor.holds : Anchor → Spot → Bool
  | textStart, spot => spot.before.isNone
  | textFinish, spot => spot.behind.isNone
  | lineStart false, spot => spot.before.all (· = '\n')
  | lineFinish false, spot => spot.behind.all (· = '\n')
  | lineStart true, spot =>
    spot.before.all (· = '\n') || (spot.before = some '\r' && spot.behind ≠ some '\n')
  | lineFinish true, spot =>
    spot.behind.all (· = '\r') || (spot.behind = some '\n' && spot.before ≠ some '\r')
  | word edge _, spot => edge.holds (spot.before.any isWordChar) (spot.behind.any isWordChar)

end QueueDepth.Pattern
